import ImageBatch.Proofs.Template.Positions
import ImageBatch.Proofs.Template.Verdict
import Mathlib.Data.List.Induction
import Mathlib.Data.List.Nodup

/-!
What a resolved job holds.

A job has one binding for each slot of its template: the slot's feature if there is one, and otherwise the slot's
default. In its graph each slot has the value of its binding, and apart from the slots all is as in the template
(`WorkflowTemplate.resolve_fills`): a sound template has every node that a slot names, and no slot twice, so every
write lands and none undoes another. The files to upload are those that the image slots were given, each at its first
use (`FirstUses`).
-/

namespace ImageBatch

/-! ### Files -/

/-- Paths without repetition, in the order of their first uses. Paths are the same if they have the same parts. -/
structure FirstUses (used kept : List Path) : Prop where
  complete : ∀ p ∈ used, ∃ q ∈ kept, q.sameAs p = true
  first : ∀ q ∈ kept, used.find? q.sameAs = some q
  inTurn : kept.Pairwise fun p q => used.findIdx p.sameAs < used.findIdx q.sameAs

theorem Path.sameAs_iff {p q : Path} : p.sameAs q = true ↔ p.components = q.components := beq_iff_eq

theorem Path.fileName?_of_sameAs {p q : Path} (same : p.sameAs q = true) : p.fileName? = q.fileName? := by
  unfold fileName?
  rw [sameAs_iff.mp same]

namespace FirstUses

variable {used kept : List Path} {p q : Path}

theorem findIdx_lt (uses : FirstUses used kept) (member : q ∈ kept) : used.findIdx q.sameAs < used.length :=
  List.findIdx_lt_length.mpr ⟨q, List.mem_of_find?_eq_some (uses.first q member), Path.sameAs_iff.mpr rfl⟩

/-- What is used later changes no first use. -/
theorem findIdx_append (uses : FirstUses used kept) (member : q ∈ kept) (later : List Path) :
    (used ++ later).findIdx q.sameAs = used.findIdx q.sameAs := by
  rw [List.findIdx_append, if_pos (uses.findIdx_lt member)]

theorem inTurn_append (uses : FirstUses used kept) (later : List Path) :
    kept.Pairwise fun p q => (used ++ later).findIdx p.sameAs < (used ++ later).findIdx q.sameAs := by
  refine uses.inTurn.imp_of_mem fun left right earlier => ?_
  rw [uses.findIdx_append left, uses.findIdx_append right]
  exact earlier

theorem first_append (uses : FirstUses used kept) (member : q ∈ kept) (later : List Path) :
    (used ++ later).find? q.sameAs = some q := by
  rw [List.find?_append, uses.first q member, Option.some_or]

theorem repeated (uses : FirstUses used kept) (before : ∃ q ∈ kept, q.sameAs p = true) :
    FirstUses (used ++ [p]) kept := by
  refine ⟨?_, fun q member => uses.first_append member [p], uses.inTurn_append [p]⟩
  intro r member
  obtain member | member := List.mem_append.mp member
  · exact uses.complete r member
  · exact List.mem_singleton.mp member ▸ before

theorem fresh (uses : FirstUses used kept) (new : ¬ ∃ q ∈ kept, q.sameAs p = true) :
    FirstUses (used ++ [p]) (kept ++ [p]) := by
  have self : p.sameAs p = true := Path.sameAs_iff.mpr rfl
  have unused : ∀ r ∈ used, ¬ p.sameAs r = true := by
    intro r member same
    obtain ⟨q, there, also⟩ := uses.complete r member
    rw [Path.sameAs_iff] at same also
    exact new ⟨q, there, Path.sameAs_iff.mpr (also.trans same.symm)⟩
  refine ⟨?_, ?_, ?_⟩
  · intro r member
    obtain member | member := List.mem_append.mp member
    · obtain ⟨q, there, same⟩ := uses.complete r member
      exact ⟨q, List.mem_append_left _ there, same⟩
    · obtain rfl := List.mem_singleton.mp member
      exact ⟨r, List.mem_append_right _ (List.mem_singleton_self r), self⟩
  · intro q member
    obtain member | member := List.mem_append.mp member
    · exact uses.first_append member [p]
    · obtain rfl := List.mem_singleton.mp member
      rw [List.find?_append, List.find?_eq_none.mpr unused, Option.none_or, List.find?_cons_of_pos self]
  · refine List.pairwise_append.mpr ⟨uses.inTurn_append [p], List.pairwise_singleton _ p, ?_⟩
    intro q there r last
    obtain rfl := List.mem_singleton.mp last
    have here : ¬ used.findIdx r.sameAs < used.length := by
      intro earlier
      obtain ⟨other, member, same⟩ := List.findIdx_lt_length.mp earlier
      exact unused other member same
    rw [uses.findIdx_append there, List.findIdx_append, if_neg here]
    exact Nat.lt_of_lt_of_le (uses.findIdx_lt there) (Nat.le_add_left _ _)

end FirstUses

theorem firstUses_distinctPaths (used : List Path) : FirstUses used (distinctPaths used) := by
  induction used using List.reverseRecOn with
  | nil => exact ⟨by simp, by simp [distinctPaths], List.Pairwise.nil⟩
  | append_singleton used p ih =>
      have step : distinctPaths (used ++ [p]) =
          if (distinctPaths used).any (·.sameAs p) then distinctPaths used else distinctPaths used ++ [p] := by
        rw [distinctPaths, List.foldl_append]
        rfl
      rw [step]
      split
      next before => exact ih.repeated (List.any_eq_true.mp before)
      next new => exact ih.fresh fun before => new (List.any_eq_true.mpr before)

/-! ### Bindings -/

namespace Slot

variable {slot : Slot} {features : FeatureSet} {feature : FeatureValue} {bound : Bound}

/-- What a slot makes of a feature that it takes. -/
inductive Makes (slot : Slot) : FeatureValue → Bound → Prop where
  | text {text} (kind : slot.kind = .text) : Makes slot (.text text) { value := .text text }
  | integer {n} (kind : slot.kind = .integer) : Makes slot (.integer n) (slot.bindInteger n)
  | whole {x} (kind : slot.kind = .integer) (finite : x.isFinite = true) (whole : x.isWhole = true) :
      Makes slot (.float x) (slot.bindInteger x.toInt64)
  | float {x} (kind : slot.kind = .float) (finite : x.isFinite = true) : Makes slot (.float x) (slot.bindFloat x)
  | rounded {n} (kind : slot.kind = .float) : Makes slot (.integer n) (slot.bindFloat (Double.ofInt n))
  | file {path name} (kind : slot.kind = .image) (named : path.fileName? = some name) :
      Makes slot (.path path) { value := .text name, upload := some path }
  /-- An image that the service has already. -/
  | there {name} (kind : slot.kind = .image) : Makes slot (.text name) { value := .text name }

theorem bindFeature_eq_ok : slot.bindFeature feature = .ok bound ↔ slot.Makes feature bound := by
  constructor
  · intro taken
    unfold bindFeature at taken
    split at taken
    next kind =>
        cases taken
        exact .text kind
    next kind =>
        cases taken
        exact .integer kind
    next kind =>
        split at taken
        next fits =>
            cases taken
            obtain ⟨finite, whole⟩ := Bool.and_eq_true_iff.mp fits
            exact .whole kind finite whole
        next => cases taken
    next kind =>
        split at taken
        next finite =>
            cases taken
            exact .float kind finite
        next => cases taken
    next kind =>
        cases taken
        exact .rounded kind
    next kind =>
        split at taken
        next named =>
            cases taken
            exact .file kind named
        next => cases taken
    next kind =>
        cases taken
        exact .there kind
    next => cases taken
  · intro makes
    cases makes with
    | text kind | integer kind | rounded kind | there kind => simp only [bindFeature, kind]
    | whole kind finite whole => simp only [bindFeature, kind, finite, whole, Bool.and_self, if_true]
    | float kind finite => simp only [bindFeature, kind, finite, if_true]
    | file kind named => simp only [bindFeature, kind, named]

/-- The local file that an image slot is given. -/
def localFile? (slot : Slot) (features : FeatureSet) : Option Path :=
  match slot.kind, features.get? slot.key with
  | .image, some (.path path) => some path
  | _, _ => none

/-- Only an image slot that is given a path has something to upload. -/
theorem upload_of_bindFeature (there : features.get? slot.key = some feature)
    (taken : slot.bindFeature feature = .ok bound) : bound.upload = slot.localFile? features := by
  unfold localFile?
  rw [there]
  cases bindFeature_eq_ok.mp taken with
  | text kind | file kind | there kind => rw [kind]
  | integer kind | whole kind | float kind | rounded kind =>
      rw [kind]
      rfl

/-- A number is moved in the name of the slot that it is bound to. -/
theorem slot_of_bindFeature {warning : ResolveWarning} (taken : slot.bindFeature feature = .ok bound)
    (given : bound.warning = some warning) : warning.slot = slot.ref := by
  cases bindFeature_eq_ok.mp taken with
  | integer | whole | float | rounded =>
      obtain ⟨-, ⟨⟩⟩ := Option.ite_none_left_eq_some.mp given
      rfl
  | text | file | there => cases given

/-- What is uploaded has a name, and the slot gets the name. -/
theorem exists_fileName_of_bindFeature {path : Path} (taken : slot.bindFeature feature = .ok bound)
    (upload : bound.upload = some path) : ∃ name, path.fileName? = some name ∧ bound.value = .text name := by
  cases bindFeature_eq_ok.mp taken with
  | file kind named =>
      cases upload
      exact ⟨_, named, rfl⟩
  | text | integer | whole | float | rounded | there => cases upload

end Slot

/-- The nodes of a sound template take inputs. -/
theorem Graph.settable {graph : Graph} {node : String} (nodes : ∀ entry ∈ graph, entry.2.IsNode)
    (placed : graph.contains node = true) : graph.Settable node := by
  obtain ⟨value, there⟩ := Option.isSome_iff_exists.mp placed
  obtain ⟨⟨word, hasClass⟩, isObject⟩ := nodes _ (Entries.mem_of_get? there)
  cases value with
  | object fields =>
      cases given : Entries.get? "inputs" fields with
      | none => exact ⟨fields, [], there, by rw [given]; rfl⟩
      | some inputs =>
          cases inputs with
          | object inputs => exact ⟨fields, inputs, there, by rw [given]; rfl⟩
          | null | bool | integer | float | text | array => cases isObject _ given
  | null | bool | integer | float | text | array => cases hasClass

namespace WorkflowTemplate

variable {template : WorkflowTemplate} {features : FeatureSet} {slot : Slot} {value : Json} {job : ResolvedJob}

/-- A slot's binding: its feature if there is one, and otherwise its default. -/
def Binds (template : WorkflowTemplate) (features : FeatureSet) (slot : Slot) (binding : SlotBinding) : Prop :=
  binding.slot = slot.ref ∧
  match features.get? slot.key with
  | some feature =>
    binding.source = .feature ∧ ∃ bound, slot.bindFeature feature = .ok bound ∧ binding.value = bound.value
  | none => binding.source = .default ∧ template.defaultFor slot = some binding.value

theorem outcome_of_mem_boundSlots {entry : Slot × Bound × BindingSource}
    (member : entry ∈ boundSlots (template.outcomes features)) :
    template.outcome features entry.1 = .bound entry.2.1 entry.2.2 := by
  obtain ⟨⟨slot, outcome⟩, there, kept⟩ := List.mem_filterMap.mp member
  obtain ⟨slot, -, ⟨⟩⟩ := List.mem_map.mp there
  cases given : template.outcome features slot with
  | bound given_ source =>
      simp only [given] at kept
      cases kept
      exact given
  | missing | mismatched => simp [given] at kept

/-- If no slot lacks a feature and every feature fits, all slots are bound. -/
theorem map_fst_boundSlots (none_ : missingSlots (template.outcomes features) = [])
    (fit : firstMismatch? (template.outcomes features) = none) :
    (boundSlots (template.outcomes features)).map (·.1) = template.slots := by
  rw [boundSlots, outcomes, List.filterMap_map, List.map_filterMap]
  refine Eq.trans (List.filterMap_congr fun slot member => ?_) List.filterMap_some
  have fits := (fits_iff template).mp (firstMismatch?_outcomes_eq_none.mp fit slot member)
  have has := List.filterMap_eq_nil_iff.mp none_ (slot, template.outcome features slot) (List.mem_map_of_mem member)
  cases given : template.outcome features slot with
  | bound => simp [given]
  | missing => simp [given] at has
  | mismatched found => exact absurd given (fits found)

theorem binds_of_outcome {bound : Bound} {source : BindingSource}
    (outcome : template.outcome features slot = .bound bound source) :
    template.Binds features slot ⟨slot.ref, bound.value, source⟩ := by
  refine ⟨rfl, ?_⟩
  obtain ⟨feature, there, taken, rfl⟩ | ⟨lacks, -, default, kept, rfl, rfl⟩ := outcome_eq_bound.mp outcome
  · rw [there]
    exact ⟨rfl, bound, taken, rfl⟩
  · rw [lacks]
    exact ⟨rfl, kept⟩

theorem upload_of_outcome {bound : Bound} {source : BindingSource}
    (outcome : template.outcome features slot = .bound bound source) : bound.upload = slot.localFile? features := by
  obtain ⟨feature, there, taken, -⟩ | ⟨lacks, -, default, -, rfl, -⟩ := outcome_eq_bound.mp outcome
  · exact Slot.upload_of_bindFeature there taken
  · simp [Slot.localFile?, lacks]

/-- A warning is about the slot that was bound. -/
theorem slot_of_warning {bound : Bound} {source : BindingSource} {warning : ResolveWarning}
    (outcome : template.outcome features slot = .bound bound source) (given : bound.warning = some warning) :
    warning.slot = slot.ref := by
  obtain ⟨feature, -, taken, -⟩ | ⟨-, -, default, -, rfl, -⟩ := outcome_eq_bound.mp outcome
  · exact Slot.slot_of_bindFeature taken given
  · cases given

/-- A slot that has something to upload gets the name of that. -/
theorem exists_fileName_of_outcome {bound : Bound} {source : BindingSource} {path : Path}
    (outcome : template.outcome features slot = .bound bound source) (upload : bound.upload = some path) :
    ∃ name, path.fileName? = some name ∧ bound.value = .text name := by
  obtain ⟨feature, -, taken, -⟩ | ⟨-, -, default, -, rfl, -⟩ := outcome_eq_bound.mp outcome
  · exact Slot.exists_fileName_of_bindFeature taken upload
  · cases upload

/-- A job is made of all slots, each bound by itself. -/
theorem exists_of_resolve (resolved : template.resolve features = .ok job) :
    ∃ bound : List (Slot × Bound × BindingSource), bound.map (·.1) = template.slots ∧
      (∀ entry ∈ bound, template.outcome features entry.1 = .bound entry.2.1 entry.2.2) ∧
      job = {
        userId := features.userId
        key := features.key
        graph := .object (fill template.graph bound)
        bindings := bound.map fun (slot, b, source) => ⟨slot.ref, b.value, source⟩
        warnings := bound.filterMap fun (_, b, _) => b.warning
        uploads := distinctPaths (bound.filterMap fun (_, b, _) => b.upload) } := by
  simp only [resolve] at resolved
  split at resolved
  next => cases resolved
  next => cases resolved
  next none_ fit =>
      cases resolved
      exact ⟨_, map_fst_boundSlots none_ fit, fun _ => outcome_of_mem_boundSlots, rfl⟩

theorem distinct_of_isSound (sound : template.IsSound) {bound : List (Slot × Bound × BindingSource)}
    (slots : bound.map (·.1) = template.slots) : (bound.map (·.1.ref)).Nodup := by
  have refs := sound.distinct
  rw [← slots, List.map_map] at refs
  exact refs

theorem settable_of_isSound (sound : template.IsSound) {bound : List (Slot × Bound × BindingSource)}
    (slots : bound.map (·.1) = template.slots) : ∀ entry ∈ bound, template.graph.Settable entry.1.node := by
  intro entry member
  have there : entry.1 ∈ template.slots := slots ▸ List.mem_map_of_mem member
  exact Graph.settable sound.nodes (sound.slots _ there).placed

/-- The files that a job uploads have names. -/
theorem exists_fileName_of_mem_uploads {path : Path} (resolved : template.resolve features = .ok job)
    (member : path ∈ job.uploads) : ∃ name, path.fileName? = some name := by
  obtain ⟨bound, -, outcomes, rfl⟩ := exists_of_resolve resolved
  have used := List.mem_of_find?_eq_some ((firstUses_distinctPaths _).first path member)
  obtain ⟨entry, there, upload⟩ := List.mem_filterMap.mp used
  obtain ⟨name, named, -⟩ := exists_fileName_of_outcome (outcomes entry there) upload
  exact ⟨name, named⟩

/-- What a slot is bound to is in the job: the value in the graph, the file among the uploads, and the warning. -/
theorem exists_bound_of_resolve (accepted : ofJson value = .ok template)
    (resolved : template.resolve features = .ok job) (member : slot ∈ template.slots) :
    ∃ bound source, template.outcome features slot = .bound bound source ∧
      job.graph.at? slot.ref.path = some bound.value ∧
      (∀ path, bound.upload = some path → ∃ kept ∈ job.uploads, kept.sameAs path = true) ∧
      ∀ warning, warning ∈ job.warnings ∧ warning.slot = slot.ref ↔ bound.warning = some warning := by
  have sound := isSound_of_ofJson accepted
  obtain ⟨entries, slots, outcomes, rfl⟩ := exists_of_resolve resolved
  have distinct := distinct_of_isSound sound slots
  rw [← slots] at member
  obtain ⟨⟨slot, bound, source⟩, there, rfl⟩ := List.mem_map.mp member
  refine ⟨bound, source, outcomes _ there, at?_fill (settable_of_isSound sound slots) distinct there, ?_, ?_⟩
  · intro path upload
    exact (firstUses_distinctPaths _).complete path (List.mem_filterMap.mpr ⟨_, there, upload⟩)
  · intro warning
    constructor
    · rintro ⟨reported, place⟩
      obtain ⟨entry, also, given⟩ := List.mem_filterMap.mp reported
      have same : entry.1.ref = slot.ref := (slot_of_warning (outcomes _ also) given).symm.trans place
      cases List.inj_on_of_nodup_map distinct also there same
      exact given
    · intro given
      exact ⟨List.mem_filterMap.mpr ⟨_, there, given⟩, slot_of_warning (outcomes _ there) given⟩

/-- A job has a binding for each slot, in the order of the slots. In its graph each slot has the value of its binding,
apart from the slots all is as in the template, and the nodes are the same. Its uploads are the first uses of the local
files that image slots were given. -/
theorem resolve_fills (accepted : ofJson value = .ok template) (resolved : template.resolve features = .ok job) :
    List.Forall₂ (template.Binds features) template.slots job.bindings ∧
    (∀ binding ∈ job.bindings, job.graph.at? binding.slot.path = some binding.value) ∧
    (∀ path, (∀ slot ∈ template.slots, Apart path slot.ref.path) →
      job.graph.at? path = (Json.object template.graph).at? path) ∧
    (∃ nodes, job.graph = .object nodes ∧ Entries.names nodes = Entries.names template.graph) ∧
    FirstUses (template.slots.filterMap (·.localFile? features)) job.uploads := by
  have sound := isSound_of_ofJson accepted
  obtain ⟨bound, slots, outcome, rfl⟩ := exists_of_resolve resolved
  have settable := settable_of_isSound sound slots
  refine ⟨?_, ?_, ?_, ⟨_, rfl, names_fill (sorted_of_ofJson accepted)⟩, ?_⟩
  · rw [← slots, List.forall₂_map_left_iff, List.forall₂_map_right_iff, List.forall₂_same]
    intro entry member
    exact binds_of_outcome (outcome entry member)
  · intro binding member
    obtain ⟨entry, there, rfl⟩ := List.mem_map.mp member
    exact at?_fill settable (distinct_of_isSound sound slots) there
  · intro path apart
    refine at?_fill_of_apart settable fun entry member => apart entry.1 ?_
    exact slots ▸ List.mem_map_of_mem member
  · have used : template.slots.filterMap (·.localFile? features) = bound.filterMap (·.2.1.upload) := by
      rw [← slots, List.filterMap_map]
      exact List.filterMap_congr fun entry member => (upload_of_outcome (outcome entry member)).symm
    rw [used]
    exact firstUses_distinctPaths _

theorem resolve_fills_portrait :
    ∃ job, portrait.resolve (.ofValues "ada" [("image", .path ⟨"in/fox.png"⟩), ("prompt", .text "a fox")]) = .ok job ∧
      (∀ binding ∈ job.bindings, job.graph.at? binding.slot.path = some binding.value) ∧
      job.graph.at? ["2", "class_type"] = some (.text "Prompt") ∧ FirstUses [⟨"in/fox.png"⟩] job.uploads := by
  obtain ⟨job, resolved⟩ : ∃ job, portrait.resolve (.ofValues "ada"
      [("image", .path ⟨"in/fox.png"⟩), ("prompt", .text "a fox")]) = .ok job := ⟨_, rfl⟩
  obtain ⟨-, values, frame, -, uploads⟩ := resolve_fills ofJson_portrait resolved
  refine ⟨job, resolved, values, ?_, uploads⟩
  rw [frame]
  · rfl
  · intro slot member
    have slots : ∀ slot ∈ portrait.slots, Apart ["2", "class_type"] slot.ref.path := by decide
    exact slots slot member

end WorkflowTemplate

end ImageBatch
