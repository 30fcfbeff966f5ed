import ImageBatch.Proofs.Template.Clamping

/-!
The kinds of the values in a job.

A slot that is bound to a feature gets a value of its kind, and a slot that is not keeps its default. A default that is
declared is of the slot's kind, but one that is only the graph's own value is merely no link, and the bounds of a number
are never compared with what the slot keeps (`WorkflowTemplate.resolve_keeps`). So a template may put a word where a
number belongs, or a number beyond its bounds (`WorkflowTemplate.keeps_misfits`).
-/

namespace ImageBatch

open Double (unitsPerOne)

theorem Json.isNumber_of_units? {value : Json} {units : Int} (exact : value.units? = some units) :
    value.isNumber = true := by
  cases value with
  | integer | float => rfl
  | null | bool | text | array | object => cases exact

namespace SlotKind

variable {kind : SlotKind} {value : Json}

/-- A link is of no kind. -/
theorem isArray_of_accepts (accepted : kind.accepts value = true) : value.isArray = false := by
  cases value with
  | array => cases kind <;> cases accepted
  | null | bool | integer | float | text | object => rfl

end SlotKind

/-- A feature is bound as a value of the slot's kind. -/
theorem Slot.accepts_of_bindFeature {slot : Slot} {feature : FeatureValue} {bound : Bound} (finite : slot.Finite)
    (fit : slot.BoundsFit) (sized : feature.IsSized) (taken : slot.bindFeature feature = .ok bound) :
    slot.kind.accepts bound.value = true := by
  cases bindFeature_eq_ok.mp taken with
  | text kind | integer kind | whole kind | file kind | there kind =>
      rw [kind]
      rfl
  | float kind | rounded kind =>
      obtain ⟨_, _, applied, -, -, exact, -⟩ := bindFeature_clamps finite fit (by rw [kind]; rfl) sized taken
      rw [kind]
      exact Json.isNumber_of_units? exact

namespace WorkflowTemplate

variable {template : WorkflowTemplate} {features : FeatureSet} {slot : Slot} {value : Json} {job : ResolvedJob}

/-- What a slot keeps if it need not be bound is of its kind, unless it is the graph's own value. -/
theorem exists_kept (sound : slot.IsSound template.graph) (optional : slot.required = false) :
    ∃ kept, template.defaultFor slot = some kept ∧ kept.isArray = false ∧
      (slot.kind.accepts kept = true ∨ slot.default = none ∧ template.graph.input? slot.ref = some kept) := by
  have default := sound.default
  unfold Slot.HasDefault at default
  unfold defaultFor
  cases given : slot.default with
  | some kept =>
      simp only [given] at default
      exact ⟨kept, rfl, SlotKind.isArray_of_accepts default, .inl default⟩
  | none =>
      simp only [given, optional, Bool.false_eq_true, false_or] at default
      obtain ⟨literal, there, value⟩ := default
      exact ⟨literal, there, value, .inr ⟨rfl, there⟩⟩

/-- A slot that need not be bound keeps a value of its kind, or else one that the graph has there and that is no link.
In a job, a slot that has a feature has a value of its kind, and a number lies within the bounds if the slot's type has
any that does. A slot that has none keeps what it keeps in the template. -/
theorem resolve_keeps (sized : value.IsSized) (accepted : ofJson value = .ok template) :
    (∀ slot ∈ template.slots, slot.required = false →
      ∃ kept, template.defaultFor slot = some kept ∧ kept.isArray = false ∧
        (slot.kind.accepts kept = true ∨ slot.default = none ∧ template.graph.input? slot.ref = some kept)) ∧
    ∀ features job, (∀ key feature, features.get? key = some feature → feature.IsSized) →
      template.resolve features = .ok job →
      ∀ slot ∈ template.slots, ∃ v, job.graph.at? slot.ref.path = some v ∧
        match features.get? slot.key with
        | some _ => slot.kind.accepts v = true ∧ (slot.kind.isNumeric = true →
            ∃ units, v.units? = some units ∧ (slot.InBounds units ↔ slot.InReach))
        | none => slot.required = false ∧ template.defaultFor slot = some v := by
  have sound := isSound_of_ofJson accepted
  constructor
  · intro slot member optional
    exact exists_kept (sound.slots slot member) optional
  · intro features job bits resolved slot member
    have fit := (sound.slots slot member).bounds
    have finite := finite_of_mem_slots sized accepted member
    obtain ⟨bound, source, outcome, inGraph, -⟩ := exists_bound_of_resolve accepted resolved member
    refine ⟨bound.value, inGraph, ?_⟩
    obtain ⟨feature, given, taken, -⟩ | ⟨lacks, optional, default, kept, rfl, -⟩ := outcome_eq_bound.mp outcome
    · have feature_bits := bits slot.key feature given
      rw [given]
      refine ⟨Slot.accepts_of_bindFeature finite fit feature_bits taken, ?_⟩
      intro numeric
      obtain ⟨_, _, applied, -, -, exact, clamps, -⟩ := Slot.bindFeature_clamps finite fit numeric feature_bits taken
      exact ⟨applied, exact, clamps.within⟩
    · rw [lacks]
      exact ⟨optional, kept⟩

theorem resolve_keeps_sampler :
    ∃ job, sampler.resolve (.ofValues "ada" []) = .ok job ∧
      job.graph.at? ["3", "inputs", "seed"] = some (.integer 7) := by
  obtain ⟨job, resolved⟩ := exists_resolve_sampler (.ofValues "ada" []) (fun _ given => nomatch given)
  obtain ⟨v, inGraph, -, kept⟩ := (resolve_keeps isSized_samplerDocument ofJson_sampler).2 (.ofValues "ada" []) job
    (fun _ _ given => nomatch given) resolved seedSlot (List.mem_singleton_self seedSlot)
  cases kept
  exact ⟨job, resolved, inGraph⟩

/-- A template whose seed is a word in the graph, and whose number of steps has the default 500, though it is at most
100. -/
def lenient : WorkflowTemplate where
  name := "lenient"
  graph := [("3", .object [("class_type", .text "KSampler"), ("inputs", .object [("seed", .text "many")])])]
  slots := [
    ⟨"3", "seed", "seed", .integer, false, none, none, none⟩,
    ⟨"3", "steps", "steps", .integer, false, some (.integer 500), none, some ⟨0x4059000000000000⟩⟩]

/-- The template is accepted, and a job keeps the word and the number. -/
theorem keeps_misfits :
    ofJson (.object [("name", .text lenient.name), ("graph", .object lenient.graph),
      ("slots", .ofList Slot.toJson lenient.slots)]) = .ok lenient ∧
    (∃ seed ∈ lenient.slots, seed.required = false ∧ lenient.defaultFor seed = some (.text "many") ∧
      seed.kind.accepts (.text "many") = false) ∧
    (∃ steps ∈ lenient.slots, steps.required = false ∧ lenient.defaultFor steps = some (.integer 500) ∧
      ¬ steps.InBounds (500 * unitsPerOne)) ∧
    ∃ job, lenient.resolve (.ofValues "ada" []) = .ok job ∧
      job.graph.at? ["3", "inputs", "seed"] = some (.text "many") ∧
      job.graph.at? ["3", "inputs", "steps"] = some (.integer 500) := by
  refine ⟨rfl, ⟨_, List.mem_cons_self, rfl, rfl, rfl⟩, ⟨_, List.mem_cons_of_mem _ List.mem_cons_self, rfl, rfl, ?_⟩,
    _, rfl, rfl, rfl⟩
  intro within
  obtain ⟨high, exact, below⟩ := within.below ⟨0x4059000000000000⟩ rfl
  have hundred : Double.units? ⟨0x4059000000000000⟩ = some (100 * unitsPerOne) := by decide +kernel
  have positive := Double.unitsPerOne_pos
  obtain rfl := Option.some.inj (hundred.symm.trans exact)
  omega

end WorkflowTemplate

end ImageBatch
