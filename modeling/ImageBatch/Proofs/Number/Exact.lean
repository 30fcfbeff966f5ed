import ImageBatch.Number.Double
import Mathlib.Algebra.Order.Group.Unbundled.Int
import Mathlib.Data.Nat.Log
import Mathlib.Tactic.Ring

/-!
Doubles by their exact values.

The exact value of a finite double is a whole number of units of `2⁻¹⁰⁷⁴` (`Double.units?`), and so is that of an
integer. Comparing two doubles compares their units (`less_eq_true`, `same_eq_true`), and so the larger and the smaller
of two have the larger and the smaller units (`units?_max`, `units?_min`). Rounding to 64 bits goes to the nearest
integer above or below as far as 64 bits reach (`ceilInt64_le`, `le_floorInt64`). A quotient is rounded to a number of
units (`units?_ofQuotient`), and the double of an integer is finite if the integer has 64 bits (`isFinite_ofInt`), and
has its exact value below `2⁵³` (`units?_ofInt`).
-/

namespace ImageBatch.Double

variable {x y : Double} {u v : Int}

/-- The exponent has a name, so that the power is not computed. -/
theorem exists_unitsPerOne : ∃ k, k = 1074 ∧ unitsPerOne = 2 ^ k := ⟨1074, rfl, by decide +kernel⟩

theorem unitsPerOne_pos : 0 < unitsPerOne := by decide +kernel

theorem isFinite_iff : x.isFinite = true ↔ ∃ u, x.units? = some u := by
  unfold isFinite units?
  cases x.meaning with
  | finite negative u => cases negative <;> simp
  | infinite | nan => simp

/-! ### Comparison -/

theorem rank?_of_units? (exact : x.units? = some u) : x.rank? = some (0, u) := by
  unfold units? at exact
  unfold rank?
  cases given : x.meaning with
  | finite negative magnitude =>
      rw [given] at exact
      cases negative <;> cases exact <;> rfl
  | infinite | nan =>
      rw [given] at exact
      cases exact

theorem isNaN_of_units? (exact : x.units? = some u) : x.isNaN = false := by
  unfold units? at exact
  unfold isNaN
  cases given : x.meaning with
  | finite => rfl
  | infinite => rfl
  | nan =>
      rw [given] at exact
      cases exact

theorem less_eq_true (left : x.units? = some u) (right : y.units? = some v) : x.less y = true ↔ u < v := by
  simp [less, rank?_of_units? left, rank?_of_units? right]

theorem same_eq_true (left : x.units? = some u) (right : y.units? = some v) : x.same y = true ↔ u = v := by
  simp [same, rank?_of_units? left, rank?_of_units? right]

theorem units?_max (left : x.units? = some u) (right : y.units? = some v) :
    (x.max y).units? = some (Max.max u v) := by
  have order := less_eq_true right left
  simp only [max, isNaN_of_units? left, isNaN_of_units? right, Bool.false_eq_true, if_false, Bool.false_or, order]
  split
  next larger => rw [left, Int.max_eq_left (Int.le_of_lt larger)]
  next notLarger => rw [right, Int.max_eq_right (Int.not_lt.mp notLarger)]

theorem units?_min (left : x.units? = some u) (right : y.units? = some v) :
    (x.min y).units? = some (Min.min u v) := by
  have order := less_eq_true left right
  simp only [min, isNaN_of_units? left, isNaN_of_units? right, Bool.false_eq_true, if_false, Bool.false_or, order]
  split
  next smaller => rw [left, Int.min_eq_left (Int.le_of_lt smaller)]
  next notSmaller => rw [right, Int.min_eq_right (Int.not_lt.mp notSmaller)]

/-! ### Whole numbers of 64 bits -/

/-- An integer of 64 bits with a sign. -/
def IsInt64 (n : Int) : Prop := int64Min ≤ n ∧ n ≤ int64Max

theorem isInt64_saturate (round : Double → Option Int) (x : Double) :
    IsInt64 (x.saturate int64Min int64Max round) := by
  unfold saturate IsInt64 int64Min int64Max
  split
  · unfold clamp
    split
    · decide
    · split <;> omega
  · split <;> decide

theorem ceil?_le_iff {c k : Int} (exact : x.units? = some u) (ceil : x.ceil? = some c) :
    c ≤ k ↔ u ≤ k * unitsPerOne := by
  have positive : (0 : Int) < unitsPerOne := Int.natCast_pos.mpr unitsPerOne_pos
  rw [ceil?, exact] at ceil
  cases ceil
  change -(-u / (unitsPerOne : Int)) ≤ k ↔ _
  rw [neg_le, Int.le_ediv_iff_mul_le positive, Int.neg_mul, Int.neg_le_neg_iff]

theorem le_floor?_iff {f k : Int} (exact : x.units? = some u) (floor : x.floor? = some f) :
    k ≤ f ↔ k * unitsPerOne ≤ u := by
  have positive : (0 : Int) < unitsPerOne := Int.natCast_pos.mpr unitsPerOne_pos
  rw [floor?, exact] at floor
  cases floor
  exact Int.le_ediv_iff_mul_le positive

theorem ceilInt64_eq {c : Int} (ceil : x.ceil? = some c) : x.ceilInt64 = clamp int64Min int64Max c := by
  simp only [ceilInt64, saturate, ceil]

theorem floorInt64_eq {f : Int} (floor : x.floor? = some f) : x.floorInt64 = clamp int64Min int64Max f := by
  simp only [floorInt64, saturate, floor]

theorem clamp_le {n k : Int} (low : int64Min ≤ k) (below : n ≤ k) : clamp int64Min int64Max n ≤ k := by
  unfold clamp
  split
  · exact low
  · split <;> omega

theorem le_clamp {n k : Int} (high : k ≤ int64Max) (above : k ≤ n) : k ≤ clamp int64Min int64Max n := by
  unfold clamp
  split
  · omega
  · split <;> omega

theorem clamp_of_isInt64 {k : Int} (bits : IsInt64 k) : clamp int64Min int64Max k = k :=
  Int.le_antisymm (clamp_le bits.1 (Int.le_refl k)) (le_clamp bits.2 (Int.le_refl k))

/-- The integer above a double that 64 bits reach is not above any other of 64 bits that lies above the double. -/
theorem ceilInt64_le {k : Int} (exact : x.units? = some u) (bits : IsInt64 k) (above : u ≤ k * unitsPerOne) :
    x.ceilInt64 ≤ k := by
  have ceil : x.ceil? = some _ := congrArg (Option.map _) exact
  have least := (ceil?_le_iff exact ceil).mpr above
  rw [ceilInt64_eq ceil]
  exact clamp_le bits.1 least

/-- It does lie above the double if any integer of 64 bits does. -/
theorem le_ceilInt64 (exact : x.units? = some u) (reached : u ≤ int64Max * unitsPerOne) :
    u ≤ x.ceilInt64 * unitsPerOne := by
  have ceil : x.ceil? = some _ := congrArg (Option.map _) exact
  have within := (ceil?_le_iff exact ceil).mpr reached
  rw [← ceil?_le_iff exact ceil, ceilInt64_eq ceil]
  exact le_clamp within (Int.le_refl _)

theorem le_floorInt64 {k : Int} (exact : x.units? = some u) (bits : IsInt64 k) (below : k * unitsPerOne ≤ u) :
    k ≤ x.floorInt64 := by
  have floor : x.floor? = some _ := congrArg (Option.map _) exact
  have greatest := (le_floor?_iff exact floor).mpr below
  rw [floorInt64_eq floor]
  exact le_clamp bits.2 greatest

theorem floorInt64_le (exact : x.units? = some u) (reached : int64Min * unitsPerOne ≤ u) :
    x.floorInt64 * unitsPerOne ≤ u := by
  have floor : x.floor? = some _ := congrArg (Option.map _) exact
  have within := (le_floor?_iff exact floor).mpr reached
  rw [← le_floor?_iff exact floor, floorInt64_eq floor]
  exact clamp_le within (Int.le_refl _)

/-- A double without a fraction is an integer, and in 64 bits the nearest to it. -/
theorem exists_of_isWhole (whole : x.isWhole = true) :
    ∃ k, x.truncate? = some k ∧ x.units? = some (k * unitsPerOne) ∧ x.toInt64 = clamp int64Min int64Max k := by
  have positive : (unitsPerOne : Int) ≠ 0 := Int.natCast_ne_zero.mpr (Nat.pos_iff_ne_zero.mp unitsPerOne_pos)
  suffices exact : ∃ k : Int, x.units? = some (k * unitsPerOne) by
    obtain ⟨k, exact⟩ := exact
    have truncated : x.truncate? = some k := by
      rw [truncate?, exact, Option.map_some, Int.mul_tdiv_cancel _ positive]
    exact ⟨k, truncated, exact, by simp only [toInt64, saturate, truncated]⟩
  unfold isWhole at whole
  unfold units?
  cases given : x.meaning with
  | finite negative magnitude =>
      rw [given] at whole
      obtain ⟨k, same⟩ : unitsPerOne ∣ magnitude := Nat.dvd_of_mod_eq_zero (by simpa using whole)
      have same : (magnitude : Int) = k * unitsPerOne := by rw [same, Int.natCast_mul, Int.mul_comm]
      cases negative with
      | true => exact ⟨-k, congrArg some (by rw [same, Int.neg_mul])⟩
      | false => exact ⟨k, congrArg some same⟩
  | infinite | nan =>
      rw [given] at whole
      cases whole

/-! ### The double of an integer -/

theorem withSign_bits {magnitude : Nat} (negative : Bool) (small : magnitude < infiniteBits) :
    (withSign negative magnitude).bits.toNat = negative.toNat * signWeight + magnitude := by
  simp only [infiniteBits, fullSignificand] at small
  unfold withSign
  simp only [UInt64.toNat_ofNat', signWeight]
  cases negative with
  | true =>
      simp only [if_true, Bool.toNat_true]
      omega
  | false =>
      simp only [Bool.false_eq_true, if_false, Bool.toNat_false]
      omega

/-- Up to infinity the bits of a magnitude count the doubles from zero on. -/
theorem meaning_withSign {magnitude : Nat} (negative : Bool) (small : magnitude < infiniteBits) :
    (withSign negative magnitude).meaning = .finite negative
      (if magnitude / fullSignificand = 0 then magnitude % fullSignificand
        else (fullSignificand + magnitude % fullSignificand) * Nat.pow 2 (magnitude / fullSignificand - 1)) := by
  have bits := withSign_bits negative small
  have signs := negative.toNat_le
  simp only [infiniteBits, fullSignificand] at small
  have field : (withSign negative magnitude).bits.toNat / fullSignificand % 2048 = magnitude / fullSignificand := by
    rw [bits]
    simp only [fullSignificand, signWeight]
    omega
  have fraction : (withSign negative magnitude).bits.toNat % fullSignificand = magnitude % fullSignificand := by
    rw [bits]
    simp only [fullSignificand, signWeight]
    omega
  have sign : ((withSign negative magnitude).bits.toNat / signWeight % 2 == 1) = negative := by
    have quotient : (withSign negative magnitude).bits.toNat / signWeight % 2 = negative.toNat := by
      rw [bits]
      simp only [signWeight]
      omega
    rw [quotient]
    cases negative <;> rfl
  have below : magnitude / fullSignificand ≠ 2047 := by
    simp only [fullSignificand]
    omega
  unfold meaning
  simp only [field, fraction, sign, below, if_false]
  split <;> rfl

/-- A significand `r` at scale `s` stands for `r · 2ˢ` units, also if it has carried. -/
theorem units?_withSign {s r : Nat} (negative : Bool) (small : s * fullSignificand + r < infiniteBits)
    (full : s = 0 ∨ fullSignificand ≤ r) (carried : r ≤ 2 * fullSignificand) :
    (withSign negative (s * fullSignificand + r)).units? =
      some (if negative then -((r * Nat.pow 2 s : Nat) : Int) else ((r * Nat.pow 2 s : Nat) : Int)) := by
  have positive : 0 < fullSignificand := by decide
  suffices value : (if (s * fullSignificand + r) / fullSignificand = 0 then (s * fullSignificand + r) % fullSignificand
      else (fullSignificand + (s * fullSignificand + r) % fullSignificand) *
        Nat.pow 2 ((s * fullSignificand + r) / fullSignificand - 1)) = r * Nat.pow 2 s by
    rw [units?, meaning_withSign negative small, value]
    cases negative <;> rfl
  rw [Nat.mul_comm s, Nat.mul_add_div positive, Nat.mul_add_mod]
  rcases Nat.lt_or_ge r fullSignificand with below | above
  · obtain rfl := full.resolve_right (Nat.not_le.mpr below)
    simp [Nat.div_eq_of_lt below, Nat.mod_eq_of_lt below]
  · rcases Nat.lt_or_ge r (2 * fullSignificand) with once | twice
    · have quotient : r / fullSignificand = 1 := Nat.div_eq_of_lt_le (by omega) (by omega)
      have remainder : fullSignificand + r % fullSignificand = r := by
        have split := Nat.div_add_mod r fullSignificand
        rw [quotient] at split
        omega
      rw [quotient, remainder, if_neg (Nat.succ_ne_zero s)]
      rfl
    · obtain rfl : r = 2 * fullSignificand := Nat.le_antisymm carried twice
      rw [Nat.mul_div_cancel _ positive, Nat.mul_mod_left, if_neg (Nat.succ_ne_zero (s + 1))]
      change (fullSignificand + 0) * 2 ^ (s + 1) = 2 * fullSignificand * 2 ^ s
      ring

theorem nearest_of_dvd {n d : Nat} (positive : 0 < d) (divides : d ∣ n) : nearest n d = n / d := by
  simp [nearest, Nat.mod_eq_zero_of_dvd divides, positive]

theorem nearest_le (n d : Nat) : n / d ≤ nearest n d ∧ nearest n d ≤ n / d + 1 := by
  simp only [nearest]
  split
  · omega
  · split
    · omega
    · split <;> omega

/-- The significand of a quotient at its scale. -/
theorem significand_bounds (n d : Nat) :
    ((n / d).log2 - 52 = 0 ∨ fullSignificand ≤ nearest n (d * 2 ^ ((n / d).log2 - 52))) ∧
      nearest n (d * 2 ^ ((n / d).log2 - 52)) ≤ 2 * fullSignificand := by
  have full : fullSignificand = 2 ^ 52 := by decide
  have power : 0 < 2 ^ ((n / d).log2 - 52) := Nat.two_pow_pos _
  obtain ⟨low, high⟩ := nearest_le n (d * 2 ^ ((n / d).log2 - 52))
  rw [← Nat.div_div_eq_div_mul] at low high
  rcases Nat.eq_zero_or_pos (n / d) with none_ | some_
  · refine ⟨.inl (by rw [none_]; rfl), Nat.le_trans high ?_⟩
    rw [none_, Nat.zero_div, full]
    decide
  · constructor
    · rcases Nat.lt_or_ge 52 (n / d).log2 with large | small
      · right
        refine Nat.le_trans ?_ low
        rw [Nat.le_div_iff_mul_le power, full, ← Nat.pow_add]
        have := Nat.log2_self_le (Nat.pos_iff_ne_zero.mp some_)
        rwa [show 52 + ((n / d).log2 - 52) = (n / d).log2 by omega]
      · left
        omega
    · have below : n / d / 2 ^ ((n / d).log2 - 52) < 2 * fullSignificand := by
        rw [Nat.div_lt_iff_lt_mul power, full, ← Nat.pow_succ', ← Nat.pow_add]
        exact Nat.lt_of_lt_of_le Nat.lt_log2_self (Nat.pow_le_pow_right (by decide) (by omega))
      omega

/-- The whole number of units that a quotient is rounded to. -/
def rounded (n d : Nat) : Nat := nearest n (d * 2 ^ ((n / d).log2 - 52)) * 2 ^ ((n / d).log2 - 52)

/-- The double of a quotient whose magnitude a double can have. -/
theorem units?_ofQuotient (negative : Bool) {n d : Nat} (small : (n / d).log2 < 2000) :
    (ofQuotient negative n d).units? = some (if negative then -(rounded n d : Int) else rounded n d) := by
  obtain ⟨full, carried⟩ := significand_bounds n d
  have finite : ((n / d).log2 - 52) * fullSignificand + nearest n (d * 2 ^ ((n / d).log2 - 52)) < infiniteBits := by
    have scale : ((n / d).log2 - 52) * fullSignificand ≤ 1948 * fullSignificand := Nat.mul_le_mul_right _ (by omega)
    simp only [infiniteBits]
    have positive : 0 < fullSignificand := by decide
    omega
  have written : ofQuotient negative n d = withSign negative
      (((n / d).log2 - 52) * fullSignificand + nearest n (d * 2 ^ ((n / d).log2 - 52))) := if_pos finite
  rw [written, units?_withSign negative finite full carried]
  rfl

/-- Nothing is rounded off a quotient whose binary digits a double has. -/
theorem rounded_of_dvd {n d : Nat} (positive : 0 < d) (divides : d * 2 ^ ((n / d).log2 - 52) ∣ n) :
    rounded n d = n / d := by
  have power : 0 < d * 2 ^ ((n / d).log2 - 52) := Nat.mul_pos positive (Nat.two_pow_pos _)
  obtain ⟨k, whole⟩ := divides
  rw [rounded, nearest_of_dvd power ⟨k, whole⟩, ← Nat.div_div_eq_div_mul, Nat.div_mul_cancel]
  refine ⟨k, Nat.div_eq_of_eq_mul_right positive ?_⟩
  rw [← Nat.mul_assoc]
  exact whole

/-- The double of an integer whose magnitude a double can have. -/
theorem units?_ofInt_eq {n : Int} (small : (n.natAbs * unitsPerOne).log2 < 2000) :
    (ofInt n).units? =
      some (if n < 0 then -(rounded (n.natAbs * unitsPerOne) 1 : Int) else rounded (n.natAbs * unitsPerOne) 1) := by
  rw [ofInt, units?_ofQuotient _ (by rwa [Nat.div_one])]
  simp only [decide_eq_true_eq]

theorem log2_lt_of_lt {n m : Nat} (bound : n < 2 ^ m) : (n * unitsPerOne).log2 < m + 1074 := by
  rcases Nat.eq_zero_or_pos n with rfl | positive
  · rw [Nat.zero_mul]
    exact Nat.lt_of_lt_of_le (by decide) (Nat.le_add_left 1074 m)
  · obtain ⟨k, exponent, scale⟩ := exists_unitsPerOne
    rw [← exponent]
    have positive := Nat.mul_pos positive unitsPerOne_pos
    rw [scale] at positive ⊢
    rw [Nat.log2_lt (Nat.pos_iff_ne_zero.mp positive), Nat.pow_add]
    exact Nat.mul_lt_mul_of_pos_right bound (Nat.two_pow_pos _)

/-- The double of an integer of 64 bits, with a sign or without, is finite. -/
theorem isFinite_ofInt {n : Int} (bits : n.natAbs < 2 ^ 64) : (ofInt n).isFinite = true := by
  have small := log2_lt_of_lt bits
  exact isFinite_iff.mpr ⟨_, units?_ofInt_eq (by omega)⟩

/-- Below `2⁵³` the double of an integer is the integer: its binary digits leave room for all units of one. -/
theorem units?_ofInt {n : Int} (small : n.natAbs < 2 ^ 53) : (ofInt n).units? = some (n * unitsPerOne) := by
  have digits := log2_lt_of_lt small
  have divides : 1 * 2 ^ ((n.natAbs * unitsPerOne / 1).log2 - 52) ∣ n.natAbs * unitsPerOne := by
    rw [Nat.one_mul, Nat.div_one]
    refine Nat.dvd_trans ?_ (Nat.dvd_mul_left unitsPerOne n.natAbs)
    obtain ⟨k, exponent, scale⟩ := exists_unitsPerOne
    rw [scale] at digits ⊢
    exact Nat.pow_dvd_pow 2 (by omega)
  rw [units?_ofInt_eq (by omega), rounded_of_dvd Nat.one_pos divides, Nat.div_one, Int.natCast_mul]
  split
  next negative => rw [← Int.neg_mul, ← Int.eq_neg_natAbs_of_nonpos (Int.le_of_lt negative)]
  next natural => rw [Int.natAbs_of_nonneg (Int.not_lt.mp natural)]

end ImageBatch.Double
