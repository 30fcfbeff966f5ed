import ImageBatch.Proofs.Template.Bounds
import ImageBatch.Proofs.Template.Filling

/-!
Numbers that are moved into the bounds of a slot.

A number is bound in two steps. First it becomes one of the slot's type (`SlotKind.held?`): an integer slot keeps the
nearest integer of 64 bits, and a float slot the nearest double. Then it is moved into the bounds, and the warning
compares what this step made of it with what the first step gave (`WorkflowTemplate.resolve_clamps`). So what the second
step does is right and is reported, but what the first step changes is not: an integer beyond 64 bits or one that is no
double is replaced in silence (`WorkflowTemplate.resolve_unreported`), and if no integer of 64 bits lies within the
bounds then neither does what is bound.
-/

namespace ImageBatch

open Double (unitsPerOne IsInt64)

/-- The exact value of a number in units of `2⁻¹⁰⁷⁴`. -/
def Json.units? : Json → Option Int
  | .integer n => some (n * unitsPerOne)
  | .float x => x.units?
  | _ => none

/-- The exact value of a number in units of `2⁻¹⁰⁷⁴`. -/
def FeatureValue.units? : FeatureValue → Option Int
  | .integer n => some (n * unitsPerOne)
  | .float x => x.units?
  | _ => none

/-- An integer has 64 bits with a sign. -/
def FeatureValue.IsSized : FeatureValue → Prop
  | .integer n => IsInt64 n
  | _ => True

namespace SlotKind

/-- The exact value of the number that a slot's type makes of a feature. -/
def held? : SlotKind → FeatureValue → Option Int
  | .integer, .integer n => some (n * unitsPerOne)
  | .integer, .float x => some (x.toInt64 * unitsPerOne)
  | .float, .integer n => (Double.ofInt n).units?
  | .float, .float x => x.units?
  | _, _ => none

/-- A slot's type surely has the number itself: a whole float is an integer of 64 bits, or an integer is small enough to
be a double. -/
def Holds : SlotKind → FeatureValue → Prop
  | .integer, .float x => ∃ k, x.truncate? = some k ∧ IsInt64 k
  | .float, .integer n => n.natAbs < 2 ^ 53
  | _, _ => True

end SlotKind

namespace Slot

variable {slot : Slot} {n : Int} {x min max : Double}

/-- Some number of the slot's type lies within the bounds. -/
def InReach (slot : Slot) : Prop :=
  slot.kind = .integer → ∃ k, IsInt64 k ∧ slot.InBounds (k * unitsPerOne)

/-- A number was moved into the bounds as far as the slot's type allows, and not at all if it lay within them; there is
a warning exactly if it was moved. -/
structure Clamps (slot : Slot) (held applied : Int) (warned : Prop) : Prop where
  within : slot.InBounds applied ↔ slot.InReach
  kept : slot.InBounds held → applied = held
  reported : warned ↔ applied ≠ held

/-! ### Integers -/

/-- An integer that was moved up to the lower bound. -/
def raiseInteger (slot : Slot) (n : Int) : Int :=
  match slot.lower with
  | some lower => Max.max n lower.ceilInt64
  | none => n

/-- An integer is moved up first and then down. -/
theorem clampInteger_eq : slot.clampInteger n =
    match slot.upper with
    | some upper => Min.min (slot.raiseInteger n) upper.floorInt64
    | none => slot.raiseInteger n := rfl

theorem isInt64_clampInteger (bits : IsInt64 n) : IsInt64 (slot.clampInteger n) := by
  have raised : IsInt64 (slot.raiseInteger n) := by
    unfold raiseInteger
    cases slot.lower with
    | none => exact bits
    | some lower =>
        obtain ⟨low, high⟩ := bits
        obtain ⟨low', high'⟩ := Double.isInt64_saturate Double.ceil? lower
        exact ⟨Int.le_trans low (Int.le_max_left ..), Int.max_le.mpr ⟨high, high'⟩⟩
  rw [clampInteger_eq]
  cases slot.upper with
  | none => exact raised
  | some upper =>
      obtain ⟨low, high⟩ := raised
      obtain ⟨low', high'⟩ := Double.isInt64_saturate Double.floor? upper
      exact ⟨Int.le_min.mpr ⟨low, low'⟩, Int.le_trans (Int.min_le_left ..) high⟩

theorem clampInteger_of_inBounds (bits : IsInt64 n) (within : slot.InBounds (n * unitsPerOne)) :
    slot.clampInteger n = n := by
  have unraised : slot.raiseInteger n = n := by
    unfold raiseInteger
    cases lower : slot.lower with
    | none => rfl
    | some min =>
        obtain ⟨low, exact, above⟩ := within.above min lower
        exact Int.max_eq_left (Double.ceilInt64_le exact bits above)
  rw [clampInteger_eq, unraised]
  cases upper : slot.upper with
  | none => rfl
  | some max =>
      obtain ⟨high, exact, below⟩ := within.below max upper
      exact Int.min_eq_left (Double.le_floorInt64 exact bits below)

theorem le_clampInteger (lower : slot.lower = some min)
    (ordered : ∀ max, slot.upper = some max → min.ceilInt64 ≤ max.floorInt64) :
    min.ceilInt64 ≤ slot.clampInteger n := by
  simp only [clampInteger, lower]
  cases upper : slot.upper with
  | none => exact Int.le_max_right ..
  | some max => exact Int.le_min.mpr ⟨Int.le_max_right .., ordered max upper⟩

theorem clampInteger_le (upper : slot.upper = some max) : slot.clampInteger n ≤ max.floorInt64 := by
  simp only [clampInteger, upper]
  exact Int.min_le_right ..

/-- If an integer of 64 bits lies within the bounds then so does every integer that was moved into them. -/
theorem inBounds_clampInteger {k : Int} (bits : IsInt64 k) (within : slot.InBounds (k * unitsPerOne)) (n : Int) :
    slot.InBounds (slot.clampInteger n * unitsPerOne) := by
  have natural : (0 : Int) ≤ unitsPerOne := Int.natCast_nonneg unitsPerOne
  constructor
  · intro min lower
    obtain ⟨low, exact, above⟩ := within.above min lower
    have reached : low ≤ Double.int64Max * unitsPerOne :=
      Int.le_trans above (Int.mul_le_mul_of_nonneg_right bits.2 natural)
    have ordered : ∀ max, slot.upper = some max → min.ceilInt64 ≤ max.floorInt64 := by
      intro max upper
      obtain ⟨high, exactHigh, below⟩ := within.below max upper
      exact Int.le_trans (Double.ceilInt64_le exact bits above) (Double.le_floorInt64 exactHigh bits below)
    refine ⟨low, exact, Int.le_trans (Double.le_ceilInt64 exact reached) ?_⟩
    exact Int.mul_le_mul_of_nonneg_right (le_clampInteger lower ordered) natural
  · intro max upper
    obtain ⟨high, exact, below⟩ := within.below max upper
    have reached : Double.int64Min * unitsPerOne ≤ high :=
      Int.le_trans (Int.mul_le_mul_of_nonneg_right bits.1 natural) below
    refine ⟨high, exact, Int.le_trans ?_ (Double.floorInt64_le exact reached)⟩
    exact Int.mul_le_mul_of_nonneg_right (clampInteger_le upper) natural

theorem bindInteger_clamps (integer : slot.kind = .integer) (bits : IsInt64 n) :
    ∃ applied, (slot.bindInteger n).value.units? = some applied ∧
      slot.Clamps (n * unitsPerOne) applied ((slot.bindInteger n).warning.isSome = true) := by
  have some_ : unitsPerOne ≠ 0 := Nat.pos_iff_ne_zero.mp Double.unitsPerOne_pos
  refine ⟨slot.clampInteger n * unitsPerOne, rfl, ?_, ?_, ?_⟩
  · constructor
    · intro within _
      exact ⟨slot.clampInteger n, isInt64_clampInteger bits, within⟩
    · intro reach
      obtain ⟨k, bits, within⟩ := reach integer
      exact inBounds_clampInteger bits within n
  · intro within
    rw [clampInteger_of_inBounds bits within]
  · have apart : slot.clampInteger n * unitsPerOne ≠ n * unitsPerOne ↔ slot.clampInteger n ≠ n :=
      not_congr (Int.mul_eq_mul_right_iff (Int.natCast_ne_zero.mpr some_))
    rw [apart]
    unfold bindInteger
    by_cases same : slot.clampInteger n = n <;> simp [same]

/-! ### Doubles -/

/-- A double that was moved up to the lower bound. -/
def raiseFloat (slot : Slot) (x : Double) : Double :=
  match slot.lower with
  | some lower => x.max lower
  | none => x

/-- A double, too, is moved up first and then down. -/
theorem clampFloat_eq : slot.clampFloat x =
    match slot.upper with
    | some upper => (slot.raiseFloat x).min upper
    | none => slot.raiseFloat x := rfl

/-- A double that was moved up lies above the lower bound, and has its own exact value if that did. -/
theorem exists_raiseFloat (finite : slot.Finite) {u : Int} (exact : x.units? = some u) :
    ∃ raised, (slot.raiseFloat x).units? = some raised ∧
      (∀ min, slot.lower = some min → ∃ low, min.units? = some low ∧ low ≤ raised) ∧
      (slot.InBounds u → raised = u) := by
  unfold raiseFloat
  cases lower : slot.lower with
  | none => exact ⟨u, exact, nofun, fun _ => rfl⟩
  | some min =>
      obtain ⟨low, exactLow⟩ := finite.lower min lower
      refine ⟨_, Double.units?_max exact exactLow, ?_, ?_⟩
      · rintro _ ⟨⟩
        exact ⟨low, exactLow, Int.le_max_right ..⟩
      · intro within
        obtain ⟨_, also, le⟩ := within.above min lower
        obtain rfl := Option.some.inj (exactLow.symm.trans also)
        exact Int.max_eq_left le

/-- A double that was moved into the bounds has an exact value, which lies within them, and which is the one it had if
that lay within them. -/
theorem exists_clampFloat (finite : slot.Finite) (fit : slot.BoundsFit) {u : Int} (exact : x.units? = some u) :
    ∃ applied, (slot.clampFloat x).units? = some applied ∧ slot.InBounds applied ∧
      (slot.InBounds u → applied = u) := by
  obtain ⟨raised, exactRaised, above, unmoved⟩ := exists_raiseFloat finite exact
  rw [clampFloat_eq]
  cases upper : slot.upper with
  | none => exact ⟨raised, exactRaised, ⟨above, by simp [upper]⟩, unmoved⟩
  | some max =>
      obtain ⟨high, exactHigh⟩ := finite.upper max upper
      refine ⟨_, Double.units?_min exactRaised exactHigh, ⟨?_, ?_⟩, ?_⟩
      · intro min lower
        obtain ⟨low, exactLow, le⟩ := above min lower
        obtain ⟨ordered, -⟩ := fit.ordered min max lower upper
        refine ⟨low, exactLow, Int.le_min.mpr ⟨le, ?_⟩⟩
        by_contra reversed
        have less := (Double.less_eq_true exactHigh exactLow).mpr (Int.not_le.mp reversed)
        rw [ordered] at less
        cases less
      · rintro _ same
        cases upper.symm.trans same
        exact ⟨high, exactHigh, Int.min_le_right ..⟩
      · intro within
        obtain ⟨_, also, le⟩ := within.below max upper
        obtain rfl := Option.some.inj (exactHigh.symm.trans also)
        rw [unmoved within]
        exact Int.min_eq_left le

theorem bindFloat_clamps (float : slot.kind = .float) (finite : slot.Finite) (fit : slot.BoundsFit) {u : Int}
    (exact : x.units? = some u) :
    ∃ applied, (slot.bindFloat x).value.units? = some applied ∧
      slot.Clamps u applied ((slot.bindFloat x).warning.isSome = true) := by
  obtain ⟨applied, exactApplied, within, kept⟩ := exists_clampFloat finite fit exact
  have number : Json.ofDouble (slot.clampFloat x) = .float (slot.clampFloat x) :=
    if_pos (Double.isFinite_iff.mpr ⟨applied, exactApplied⟩)
  refine ⟨applied, ?_, ?_, kept, ?_⟩
  · simp only [bindFloat, number]
    exact exactApplied
  · refine iff_of_true within ?_
    intro integer
    cases float.symm.trans integer
  · rw [ne_eq, ← Double.same_eq_true exactApplied exact]
    unfold bindFloat
    cases same : (slot.clampFloat x).same x <;> simp [same]

/-! ### Features -/

/-- A number becomes one of the slot's type and is then moved into the bounds. -/
theorem bindFeature_clamps {feature : FeatureValue} {bound : Bound} (finite : slot.Finite) (fit : slot.BoundsFit)
    (numeric : slot.kind.isNumeric = true) (sized : feature.IsSized) (taken : slot.bindFeature feature = .ok bound) :
    ∃ requested held applied, feature.units? = some requested ∧ slot.kind.held? feature = some held ∧
      bound.value.units? = some applied ∧ slot.Clamps held applied (bound.warning.isSome = true) ∧
      (slot.kind.Holds feature → held = requested) := by
  cases bindFeature_eq_ok.mp taken with
  | text kind | file kind | there kind =>
      rw [kind] at numeric
      cases numeric
  | integer kind =>
      obtain ⟨applied, exact, clamps⟩ := bindInteger_clamps kind sized
      rw [kind]
      exact ⟨_, _, applied, rfl, rfl, exact, clamps, fun _ => rfl⟩
  | @whole x kind _ whole =>
      obtain ⟨k, truncated, exactly, nearest⟩ := Double.exists_of_isWhole whole
      obtain ⟨applied, exact, clamps⟩ := bindInteger_clamps kind (Double.isInt64_saturate Double.truncate? x)
      rw [kind]
      refine ⟨_, _, applied, exactly, rfl, exact, clamps, ?_⟩
      rintro ⟨k', also, bits⟩
      obtain rfl := Option.some.inj (truncated.symm.trans also)
      rw [nearest, Double.clamp_of_isInt64 bits]
  | float kind isFinite =>
      obtain ⟨u, exactly⟩ := Double.isFinite_iff.mp isFinite
      obtain ⟨applied, exact, clamps⟩ := bindFloat_clamps kind finite fit exactly
      rw [kind]
      exact ⟨u, u, applied, exactly, exactly, exact, clamps, fun _ => rfl⟩
  | @rounded n kind =>
      have bits : n.natAbs < 2 ^ 64 := by
        obtain ⟨low, high⟩ := sized
        simp only [Double.int64Min, Double.int64Max] at low high
        omega
      obtain ⟨u, exactly⟩ := Double.isFinite_iff.mp (Double.isFinite_ofInt bits)
      obtain ⟨applied, exact, clamps⟩ := bindFloat_clamps kind finite fit exactly
      rw [kind]
      refine ⟨_, u, applied, rfl, exactly, exact, clamps, ?_⟩
      intro small
      exact Option.some.inj (exactly.symm.trans (Double.units?_ofInt small))

end Slot

namespace WorkflowTemplate

variable {template : WorkflowTemplate} {features : FeatureSet} {slot : Slot} {value : Json} {job : ResolvedJob}

/-- A number that is bound becomes one of its slot's type, and what this gives is moved into the bounds as far as the
type allows: the graph has a number within the bounds if the type has any, what lies within them is not moved, and there
is a warning exactly if something is. The first step changes nothing if the type holds the number. -/
theorem resolve_clamps (sized : value.IsSized) (accepted : ofJson value = .ok template)
    (resolved : template.resolve features = .ok job) (member : slot ∈ template.slots)
    (numeric : slot.kind.isNumeric = true) {feature : FeatureValue} (given : features.get? slot.key = some feature)
    (bits : feature.IsSized) :
    ∃ requested held applied, feature.units? = some requested ∧ slot.kind.held? feature = some held ∧
      (job.graph.at? slot.ref.path).bind Json.units? = some applied ∧
      slot.Clamps held applied (∃ warning ∈ job.warnings, warning.slot = slot.ref) ∧
      (slot.kind.Holds feature → held = requested) := by
  have fit := ((isSound_of_ofJson accepted).slots slot member).bounds
  have finite := finite_of_mem_slots sized accepted member
  obtain ⟨bound, source, outcome, inGraph, -, warned⟩ := exists_bound_of_resolve accepted resolved member
  obtain ⟨_, also, taken, -⟩ | ⟨lacks, -⟩ := outcome_eq_bound.mp outcome
  · obtain rfl := Option.some.inj (given.symm.trans also)
    obtain ⟨requested, held, applied, asked, got, exact, clamps, holds⟩ :=
      Slot.bindFeature_clamps finite fit numeric bits taken
    have reported : (∃ warning ∈ job.warnings, warning.slot = slot.ref) ↔ bound.warning.isSome = true := by
      simp only [warned, Option.isSome_iff_exists]
    refine ⟨requested, held, applied, asked, got, ?_, ?_, holds⟩
    · rw [inGraph]
      exact exact
    · rw [reported]
      exact clamps
  · cases given.symm.trans lacks

/-! ### A seed -/

/-- The place of a seed, which is an integer from zero on. -/
def seedSlot : Slot := ⟨"3", "seed", "seed", .integer, false, none, some (.zero false), none⟩

/-- A template of one node with a seed. -/
def sampler : WorkflowTemplate where
  name := "sampler"
  graph := [("3", .object [("class_type", .text "KSampler"), ("inputs", .object [("seed", .integer 7)])])]
  slots := [seedSlot]

/-- The template as it is written. -/
def samplerDocument : Json :=
  .object [("name", .text sampler.name), ("graph", .object sampler.graph),
    ("slots", .ofList Slot.toJson sampler.slots)]

theorem ofJson_sampler : ofJson samplerDocument = .ok sampler := by rfl

theorem inBounds_seedSlot {units : Int} : seedSlot.InBounds units ↔ 0 ≤ units := by
  constructor
  · intro within
    obtain ⟨low, ⟨⟩, above⟩ := within.above (.zero false) rfl
    exact above
  · intro natural
    constructor
    · rintro min ⟨⟩
      exact ⟨0, rfl, natural⟩
    · rintro max ⟨⟩

theorem isSized_samplerDocument : samplerDocument.IsSized := by
  have zero : (Json.ofDouble (.zero false)).IsSized := by
    have finite : (Double.zero false).isFinite = true := by decide
    rw [Json.ofDouble, if_pos finite]
    exact finite
  simp [samplerDocument, sampler, seedSlot, Slot.toJson, Json.ofList, Json.ofOption, Json.IsSized, Json.AreSized,
    Json.HasSized, zero]
  decide

theorem exists_resolve_sampler (features : FeatureSet) (fits : seedSlot.Fits features) :
    ∃ job, sampler.resolve features = .ok job := by
  have fit : firstMismatch? (sampler.outcomes features) = none := by
    refine firstMismatch?_outcomes_eq_none.mpr ?_
    intro slot member
    obtain rfl := List.mem_singleton.mp member
    exact fits
  have none_ := missingSlots_outcomes (isSound_of_ofJson ofJson_sampler) features
  simp only [resolve, fit, none_]
  exact ⟨_, rfl⟩

theorem fits_seedSlot (feature : FeatureValue) (taken : SlotKind.integer.Takes feature) :
    seedSlot.Fits (.ofValues "ada" [("seed", feature)]) := by
  intro other given
  cases given
  exact taken

theorem resolve_clamps_sampler :
    ∃ job applied, sampler.resolve (.ofValues "ada" [("seed", .integer (-5))]) = .ok job ∧
      (job.graph.at? ["3", "inputs", "seed"]).bind Json.units? = some applied ∧ 0 ≤ applied ∧
      ∃ warning ∈ job.warnings, warning.slot = ⟨"3", "seed"⟩ := by
  obtain ⟨job, resolved⟩ := exists_resolve_sampler _ (fits_seedSlot (.integer (-5)) trivial)
  obtain ⟨requested, held, applied, -, got, inGraph, clamps, -⟩ :=
    resolve_clamps isSized_samplerDocument ofJson_sampler resolved (List.mem_singleton_self seedSlot) rfl rfl
      ⟨by decide, by decide⟩
  have natural : 0 ≤ applied := by
    refine inBounds_seedSlot.mp (clamps.within.mpr fun _ => ⟨0, ⟨by decide, by decide⟩, ?_⟩)
    rw [inBounds_seedSlot, Int.zero_mul]
  have negative : -5 * (unitsPerOne : Int) = held := Option.some.inj got
  have positive := Double.unitsPerOne_pos
  refine ⟨job, applied, resolved, inGraph, natural, clamps.reported.mpr ?_⟩
  omega

/-- The seed 10¹⁹ lies within the bounds, and without a warning it becomes another one: the largest integer of 64
bits. -/
theorem resolve_unreported :
    FeatureValue.units? (.float ⟨0x43e158e460913d00⟩) = some (10000000000000000000 * unitsPerOne) ∧
    seedSlot.InBounds (10000000000000000000 * unitsPerOne) ∧
    ∃ job, sampler.resolve (.ofValues "ada" [("seed", .float ⟨0x43e158e460913d00⟩)]) = .ok job ∧
      job.graph.at? ["3", "inputs", "seed"] = some (.integer 9223372036854775807) ∧
      ¬ ∃ warning ∈ job.warnings, warning.slot = ⟨"3", "seed"⟩ := by
  have natural {n : Int} (natural : 0 ≤ n) : seedSlot.InBounds (n * unitsPerOne) :=
    inBounds_seedSlot.mpr (Int.mul_nonneg natural (Int.natCast_nonneg unitsPerOne))
  have finite : Double.isFinite ⟨0x43e158e460913d00⟩ = true := by decide +kernel
  have whole : Double.isWhole ⟨0x43e158e460913d00⟩ = true := by decide +kernel
  have nearest : Double.toInt64 ⟨0x43e158e460913d00⟩ = 9223372036854775807 := by decide +kernel
  have unmoved : seedSlot.clampInteger 9223372036854775807 = 9223372036854775807 :=
    Slot.clampInteger_of_inBounds ⟨by decide, by decide⟩ (natural (by decide))
  refine ⟨by decide +kernel, natural (by decide), ?_⟩
  have takes : seedSlot.Makes (.float ⟨0x43e158e460913d00⟩) (seedSlot.bindInteger 9223372036854775807) := by
    rw [← nearest]
    exact .whole rfl finite whole
  obtain ⟨job, resolved⟩ :=
    exists_resolve_sampler _ (fits_seedSlot (.float ⟨0x43e158e460913d00⟩) ⟨finite, whole⟩)
  obtain ⟨bound, source, outcome, inGraph, -, warned⟩ :=
    exists_bound_of_resolve ofJson_sampler resolved (List.mem_singleton_self seedSlot)
  have made : sampler.outcome (.ofValues "ada" [("seed", .float ⟨0x43e158e460913d00⟩)]) seedSlot = .bound _ .feature :=
    outcome_eq_bound.mpr (.inl ⟨_, rfl, Slot.bindFeature_eq_ok.mpr takes, rfl⟩)
  obtain ⟨rfl, -⟩ := SlotOutcome.bound.inj (made.symm.trans outcome)
  refine ⟨job, resolved, ?_, ?_⟩
  · refine inGraph.trans ?_
    simp only [Slot.bindInteger, unmoved]
  · rintro ⟨warning, reported⟩
    have moved := (warned warning).mp reported
    simp [Slot.bindInteger, unmoved] at moved

end WorkflowTemplate

end ImageBatch
