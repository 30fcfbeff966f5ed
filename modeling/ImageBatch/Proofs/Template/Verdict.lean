import ImageBatch.Proofs.Template.Soundness
import ImageBatch.Template.Resolve
import Mathlib.Data.List.Basic

/-!
The verdict on a feature set.

A slot of a sound template is bound unless it must have a feature and has none (`outcome_eq_missing`) or its feature is
of another kind (`outcome_eq_mismatched`): one that need not have a feature has a default. So a job can be built
exactly if nothing is lacking and every feature is taken, and otherwise the error names all slots that lack a feature,
or else the first slot whose feature is not taken (`WorkflowTemplate.resolve_verdict`).
-/

namespace ImageBatch

/-- The features to which a slot of a kind can be bound. A float is one of an integer's if it is whole, and a path is an
image's if it ends in a name. -/
def SlotKind.Takes : SlotKind → FeatureValue → Prop
  | .text, .text _ | .integer, .integer _ | .float, .integer _ | .image, .text _ => True
  | .integer, .float x => x.isFinite = true ∧ x.isWhole = true
  | .float, .float x => x.isFinite = true
  | .image, .path path => path.fileName?.isSome = true
  | _, _ => False

namespace Slot

variable {slot : Slot} {features : FeatureSet} {feature : FeatureValue}

/-- The feature of a slot, if it has one, is of the slot's kind. -/
def Fits (slot : Slot) (features : FeatureSet) : Prop :=
  ∀ feature, features.get? slot.key = some feature → slot.kind.Takes feature

theorem takes_iff : slot.kind.Takes feature ↔ ∃ bound, slot.bindFeature feature = .ok bound := by
  unfold bindFeature
  cases slot.kind with
  | text => cases feature <;> simp [SlotKind.Takes]
  | integer =>
      cases feature with
      | float x => cases finite : x.isFinite <;> cases whole : x.isWhole <;> simp [SlotKind.Takes, finite, whole]
      | text | integer | path => simp [SlotKind.Takes]
  | float =>
      cases feature with
      | float x => cases finite : x.isFinite <;> simp [SlotKind.Takes, finite]
      | text | integer | path => simp [SlotKind.Takes]
  | image =>
      cases feature with
      | path p => cases name : p.fileName? <;> simp [SlotKind.Takes, name]
      | text | integer | float => simp [SlotKind.Takes]

theorem exists_error_of_not_takes (strange : ¬ slot.kind.Takes feature) :
    ∃ found, slot.bindFeature feature = .error found := by
  cases given : slot.bindFeature feature with
  | ok bound => exact absurd (takes_iff.mpr ⟨bound, given⟩) strange
  | error found => exact ⟨found, rfl⟩

end Slot

namespace WorkflowTemplate

variable {template : WorkflowTemplate} {features : FeatureSet} {slot : Slot} {value : Json}

/-! ### One slot -/

/-- A slot that need not be bound has something to keep. -/
theorem exists_defaultFor (sound : slot.IsSound template.graph) (optional : slot.required = false) :
    ∃ default, template.defaultFor slot = some default := by
  have default := sound.default
  unfold Slot.HasDefault at default
  unfold defaultFor
  cases given : slot.default with
  | some value => exact ⟨value, rfl⟩
  | none =>
      simp only [given, optional, Bool.false_eq_true, false_or] at default
      obtain ⟨literal, there, -⟩ := default
      exact ⟨literal, there⟩

theorem outcome_eq_missing (sound : slot.IsSound template.graph) :
    template.outcome features slot = .missing ↔ slot.required = true ∧ features.get? slot.key = none := by
  unfold outcome
  cases features.get? slot.key with
  | some feature => cases bound : slot.bindFeature feature <;> simp [bound]
  | none =>
      cases optional : slot.required with
      | true => simp
      | false =>
          obtain ⟨default, there⟩ := exists_defaultFor sound optional
          simp [there]

theorem outcome_eq_mismatched {found : String} :
    template.outcome features slot = .mismatched found ↔
      ∃ feature, features.get? slot.key = some feature ∧ slot.bindFeature feature = .error found := by
  unfold outcome
  cases features.get? slot.key with
  | some feature => cases bound : slot.bindFeature feature <;> simp [bound]
  | none => cases slot.required <;> cases template.defaultFor slot <;> simp

theorem outcome_eq_bound {bound : Bound} {source : BindingSource} :
    template.outcome features slot = .bound bound source ↔
      (∃ feature, features.get? slot.key = some feature ∧ slot.bindFeature feature = .ok bound ∧ source = .feature) ∨
      (features.get? slot.key = none ∧ slot.required = false ∧
        ∃ default, template.defaultFor slot = some default ∧ bound = { value := default } ∧ source = .default) := by
  unfold outcome
  cases features.get? slot.key with
  | some feature => cases taken : slot.bindFeature feature <;> simp [taken, @eq_comm _ source]
  | none => cases slot.required <;> cases template.defaultFor slot <;> simp [@eq_comm _ bound, @eq_comm _ source]

/-- A slot is not mismatched exactly if its feature fits. -/
theorem fits_iff (template : WorkflowTemplate) :
    slot.Fits features ↔ ∀ found, template.outcome features slot ≠ .mismatched found := by
  simp only [ne_eq, outcome_eq_mismatched]
  constructor
  · rintro fits found ⟨feature, there, refused⟩
    obtain ⟨bound, taken⟩ := Slot.takes_iff.mp (fits feature there)
    cases taken.symm.trans refused
  · intro none_ feature there
    by_contra strange
    obtain ⟨found, refused⟩ := Slot.exists_error_of_not_takes strange
    exact none_ found ⟨feature, there, refused⟩

/-! ### All slots -/

/-- The slots that must be bound and have no feature. -/
def lacking (template : WorkflowTemplate) (features : FeatureSet) : List Slot :=
  template.slots.filter fun slot => slot.required && (features.get? slot.key).isNone

theorem missingSlots_outcomes (sound : template.IsSound) (features : FeatureSet) :
    missingSlots (template.outcomes features) = (template.lacking features).map Slot.ref := by
  rw [missingSlots, outcomes, lacking, List.filterMap_map, ← List.filterMap_eq_map, List.filterMap_filter]
  apply List.filterMap_congr
  intro slot member
  have missing : template.outcome features slot = .missing ↔ _ := outcome_eq_missing (sound.slots slot member)
  cases given : template.outcome features slot with
  | missing =>
      obtain ⟨required, lacks⟩ := missing.mp given
      simp [given, required, lacks]
  | bound | mismatched =>
      have has := mt missing.mpr (by simp [given])
      simpa [given] using has

theorem firstMismatch?_outcomes_eq_none :
    firstMismatch? (template.outcomes features) = none ↔ ∀ slot ∈ template.slots, slot.Fits features := by
  rw [firstMismatch?, outcomes, List.findSome?_map, List.findSome?_eq_none_iff]
  refine forall₂_congr fun slot _ => ?_
  rw [fits_iff template]
  cases given : template.outcome features slot <;> simp [given]

theorem firstMismatch?_outcomes_eq_some {earlier later : List Slot} {found : String}
    (slots : template.slots = earlier ++ slot :: later) (fit : ∀ before ∈ earlier, before.Fits features)
    (mismatched : template.outcome features slot = .mismatched found) :
    firstMismatch? (template.outcomes features) = some (.typeMismatch slot.ref slot.key slot.kind found) := by
  rw [firstMismatch?, outcomes, List.findSome?_map, List.findSome?_eq_some_iff]
  refine ⟨earlier, slot, later, slots, ?_, ?_⟩
  · simp [mismatched]
  · intro before member
    have fits := (fits_iff template).mp (fit before member)
    cases given : template.outcome features before with
    | mismatched found => exact absurd given (fits found)
    | bound | missing => simp [given]

/-! ### The verdict -/

/-- If slots that must have a feature have none, the error names them all, whatever else is wrong. If not, and a
slot's feature is not taken, the error names the first such slot. If neither, there is a job. A slot that need not have
a feature and has none is bound to its default. -/
theorem resolve_verdict (accepted : ofJson value = .ok template) (features : FeatureSet) :
    (template.lacking features ≠ [] →
      template.resolve features = .error (.missingRequired ((template.lacking features).map Slot.ref))) ∧
    (template.lacking features = [] →
      (∀ earlier slot later feature, template.slots = earlier ++ slot :: later →
        (∀ before ∈ earlier, before.Fits features) →
        features.get? slot.key = some feature → ¬ slot.kind.Takes feature →
        ∃ found, slot.bindFeature feature = .error found ∧
          template.resolve features = .error (.typeMismatch slot.ref slot.key slot.kind found)) ∧
      ((∀ slot ∈ template.slots, slot.Fits features) → ∃ job, template.resolve features = .ok job)) ∧
    (∀ slot ∈ template.slots, slot.required = false → features.get? slot.key = none →
      ∃ default, template.defaultFor slot = some default ∧
        template.outcome features slot = .bound { value := default } .default) := by
  have sound := isSound_of_ofJson accepted
  have missing := missingSlots_outcomes sound features
  refine ⟨?_, ?_, ?_⟩
  · intro some_
    obtain ⟨first, rest, lacks⟩ := List.exists_cons_of_ne_nil some_
    rw [lacks, List.map_cons] at missing ⊢
    simp only [resolve, missing]
  · intro none_
    rw [none_, List.map_nil] at missing
    constructor
    · intro earlier slot later feature slots fit there strange
      obtain ⟨found, refused⟩ := Slot.exists_error_of_not_takes strange
      have mismatched := firstMismatch?_outcomes_eq_some slots fit (outcome_eq_mismatched.mpr ⟨feature, there, refused⟩)
      refine ⟨found, refused, ?_⟩
      simp only [resolve, missing, mismatched]
    · intro fit
      have fits := firstMismatch?_outcomes_eq_none.mpr fit
      simp only [resolve, missing, fits]
      exact ⟨_, rfl⟩
  · intro slot member optional lacks
    obtain ⟨default, there⟩ := exists_defaultFor (sound.slots slot member) optional
    exact ⟨default, there, outcome_eq_bound.mpr (.inr ⟨lacks, optional, default, there, rfl, rfl⟩)⟩

theorem resolve_verdict_portrait :
    portrait.resolve (.ofValues "ada" [("image", .integer 3)]) = .error (.missingRequired [⟨"2", "text"⟩]) ∧
    portrait.resolve (.ofValues "ada" [("prompt", .text "a fox"), ("image", .integer 3), ("steps", .text "few")]) =
      .error (.typeMismatch ⟨"1", "image"⟩ "image" .image "an integer") ∧
    ∃ job, portrait.resolve (.ofValues "ada" [("prompt", .text "a fox")]) = .ok job := by
  refine ⟨?_, ?_, ?_⟩
  · exact (resolve_verdict ofJson_portrait _).1 (by decide)
  · obtain ⟨found, refused, verdict⟩ := ((resolve_verdict ofJson_portrait
      (.ofValues "ada" [("prompt", .text "a fox"), ("image", .integer 3), ("steps", .text "few")])).2.1 rfl).1
      [_] _ [_] (.integer 3) rfl
      (by
        intro before member feature there
        obtain rfl := List.mem_singleton.mp member
        cases there
        exact trivial)
      rfl id
    cases refused
    exact verdict
  · refine ((resolve_verdict ofJson_portrait _).2.1 rfl).2 ?_
    intro slot member feature there
    have slots : slot ∈ portrait.slots := member
    simp only [portrait, List.mem_cons, List.not_mem_nil, or_false] at slots
    obtain rfl | rfl | rfl := slots
    · cases there
      exact trivial
    · cases there
    · cases there

end WorkflowTemplate

end ImageBatch
