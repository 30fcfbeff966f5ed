import ImageBatch.Number.Natural
import ImageBatch.Proofs.Number.Exact

/-!
Products that are doubles.

A number of units that a double has (`Double.Fits`) is a whole multiple of the step between doubles of its size. Twice
a rounded number is one (`Double.fits_doubled_rounded`), and a product that is one is not rounded
(`Double.units?_mul`). So the double of an integer is doubled exactly, and rounding an integer of 64 bits, doubling it
and cutting it off again never gives less than the integer (`Double.le_toNat64_doubled`).
-/

namespace ImageBatch.Double

variable {x y : Double} {m k w : Nat}

/-- A number of units has no more binary digits than a double has, and is not too large for one. -/
structure Fits (units : Nat) : Prop where
  digits : 2 ^ (units.log2 - 52) ∣ units
  bounded : units.log2 < 2000

/-- Significands of up to 53 binary digits, at any scale. -/
theorem dvd_of_significand {q s : Nat} (small : q ≤ 2 * fullSignificand) :
    2 ^ ((q * 2 ^ s).log2 - 52) ∣ q * 2 ^ s := by
  have full : 2 * fullSignificand = 2 ^ 53 := by decide
  rw [full] at small
  rcases Nat.eq_zero_or_pos q with rfl | positive
  · rw [Nat.zero_mul]
    exact Nat.dvd_zero _
  · have scaled : q * 2 ^ s ≠ 0 := Nat.pos_iff_ne_zero.mp (Nat.mul_pos positive (Nat.two_pow_pos s))
    rcases Nat.lt_or_eq_of_le small with below | rfl
    · have digits : (q * 2 ^ s).log2 < 53 + s := by
        rw [Nat.log2_lt scaled, Nat.pow_add]
        exact Nat.mul_lt_mul_of_pos_right below (Nat.two_pow_pos s)
      exact Nat.dvd_trans (Nat.pow_dvd_pow 2 (by omega)) (Nat.dvd_mul_left (2 ^ s) q)
    · rw [← Nat.pow_add, Nat.log2_two_pow]
      exact Nat.pow_dvd_pow 2 (Nat.sub_le _ _)

/-- What a quotient is rounded to is a significand at the quotient's scale, so twice as much is one, too. -/
theorem fits_doubled_rounded {n d : Nat} (small : (n / d).log2 < 1990) : Fits (2 * rounded n d) := by
  obtain ⟨-, carried⟩ := significand_bounds n d
  have scaled : 2 * rounded n d =
      nearest n (d * 2 ^ ((n / d).log2 - 52)) * 2 ^ ((n / d).log2 - 52 + 1) := by
    rw [rounded, Nat.pow_succ]
    ring
  rw [scaled]
  refine ⟨dvd_of_significand carried, ?_⟩
  have below : nearest n (d * 2 ^ ((n / d).log2 - 52)) * 2 ^ ((n / d).log2 - 52 + 1) <
      2 ^ 54 * 2 ^ ((n / d).log2 - 52 + 1) := by
    refine Nat.mul_lt_mul_of_pos_right (Nat.lt_of_le_of_lt carried ?_) (Nat.two_pow_pos _)
    decide
  rw [← Nat.pow_add] at below
  rcases Nat.eq_zero_or_pos (nearest n (d * 2 ^ ((n / d).log2 - 52)) * 2 ^ ((n / d).log2 - 52 + 1)) with none_ | some_
  · rw [none_]
    decide
  · exact Nat.lt_of_lt_of_le ((Nat.log2_lt (Nat.pos_iff_ne_zero.mp some_)).mpr below) (by omega)

/-- Rounding takes away at most half of a quotient. -/
theorem le_two_mul_rounded (n d : Nat) : n / d ≤ 2 * rounded n d := by
  obtain ⟨low, -⟩ := nearest_le n (d * 2 ^ ((n / d).log2 - 52))
  rw [← Nat.div_div_eq_div_mul] at low
  rcases Nat.eq_zero_or_pos (n / d) with none_ | some_
  · rw [none_]
    exact Nat.zero_le _
  · have power : 0 < 2 ^ ((n / d).log2 - 52) := Nat.two_pow_pos _
    have one : 1 ≤ n / d / 2 ^ ((n / d).log2 - 52) := by
      rw [Nat.le_div_iff_mul_le power, Nat.one_mul]
      exact Nat.le_trans (Nat.pow_le_pow_right (by decide) (Nat.sub_le _ _))
        (Nat.log2_self_le (Nat.pos_iff_ne_zero.mp some_))
    calc n / d ≤ 2 ^ ((n / d).log2 - 52) * (n / d / 2 ^ ((n / d).log2 - 52) + 1) :=
          Nat.le_of_lt (Nat.lt_mul_div_succ (n / d) power)
      _ ≤ 2 ^ ((n / d).log2 - 52) * (2 * nearest n (d * 2 ^ ((n / d).log2 - 52))) :=
          Nat.mul_le_mul_left _ (by omega)
      _ = 2 * rounded n d := by
          rw [rounded]
          ring

/-- A double that is not below zero has its units as they are, whatever its sign. -/
theorem exists_meaning (exact : x.units? = some (m : Int)) :
    ∃ negative, x.meaning = .finite negative m ∧ (negative = true → m = 0) := by
  unfold units? at exact
  cases given : x.meaning with
  | finite negative units =>
      rw [given] at exact
      cases negative with
      | true =>
          have none_ : m = 0 ∧ units = 0 := by
            have := Option.some.inj exact
            omega
          exact ⟨true, by rw [none_.1, none_.2], fun _ => none_.1⟩
      | false =>
          refine ⟨false, ?_, nofun⟩
          rw [Int.ofNat.inj (Option.some.inj exact)]
  | infinite | nan =>
      rw [given] at exact
      cases exact

/-- A product that a double has is not rounded. -/
theorem units?_mul (left : x.units? = some (m : Int)) (right : y.units? = some (k : Int))
    (product : m * k = w * unitsPerOne) (fits : Fits w) : (x.mul y).units? = some (w : Int) := by
  obtain ⟨a, first, firstZero⟩ := exists_meaning left
  obtain ⟨b, second, secondZero⟩ := exists_meaning right
  have quotient : w * unitsPerOne / unitsPerOne = w := Nat.mul_div_cancel w unitsPerOne_pos
  have divides : unitsPerOne * 2 ^ ((w * unitsPerOne / unitsPerOne).log2 - 52) ∣ w * unitsPerOne := by
    rw [quotient, Nat.mul_comm w]
    exact Nat.mul_dvd_mul_left unitsPerOne fits.digits
  simp only [mul, first, second, product]
  rw [units?_ofQuotient _ (by rw [quotient]; exact fits.bounded), rounded_of_dvd unitsPerOne_pos divides, quotient]
  split
  next negative =>
      -- Only a zero has a sign here.
      have zero : m * k = 0 := by
        cases a with
        | true => rw [firstZero rfl, Nat.zero_mul]
        | false =>
            cases b with
            | true => rw [secondZero rfl, Nat.mul_zero]
            | false => cases negative
      have none_ : w = 0 := by
        rw [zero] at product
        exact (Nat.mul_eq_zero.mp product.symm).resolve_right (Nat.pos_iff_ne_zero.mp unitsPerOne_pos)
      rw [none_]
      rfl
  next => rfl

/-- The double of a natural number of 64 bits has at least half its units, and doubling it is exact. -/
theorem units?_doubled {n : Nat} (bits : n ≤ Natural.max64) :
    ∃ r : Nat, ((ofInt n).mul (ofInt 2)).units? = some (r : Int) ∧ n * unitsPerOne ≤ r := by
  have magnitude : (n : Int).natAbs = n := rfl
  have small : (n * unitsPerOne / 1).log2 < 1990 := by
    rw [Nat.div_one]
    refine Nat.lt_trans (log2_lt_of_lt (m := 64) (Nat.lt_of_le_of_lt bits ?_)) (by decide)
    decide
  have left : (ofInt n).units? = some (rounded (n * unitsPerOne) 1 : Int) := by
    rw [units?_ofInt_eq (by rw [magnitude, ← Nat.div_one (n * unitsPerOne)]; omega), magnitude,
      if_neg (Int.not_lt.mpr (Int.natCast_nonneg n))]
  have right : (ofInt 2).units? = some ((2 * unitsPerOne : Nat) : Int) := by
    rw [Int.natCast_mul]
    exact units?_ofInt (by decide)
  refine ⟨2 * rounded (n * unitsPerOne) 1, units?_mul left right (by ring) (fits_doubled_rounded small), ?_⟩
  have := le_two_mul_rounded (n * unitsPerOne) 1
  rwa [Nat.div_one] at this

/-- What a double is cut off to has 64 bits. -/
theorem toNat64_le (x : Double) : x.toNat64 ≤ Natural.max64 := by
  have within : x.saturate 0 nat64Max truncate? ≤ nat64Max := by
    unfold saturate
    split
    · unfold clamp nat64Max
      split
      · decide
      · split <;> omega
    · split <;> decide
  unfold toNat64
  unfold nat64Max at within ⊢
  unfold Natural.max64
  omega

/-- Cutting off a double keeps a natural number of 64 bits that is not above it. -/
theorem le_toNat64 {n : Nat} (exact : x.units? = some (m : Int)) (bits : n ≤ Natural.max64)
    (below : n * unitsPerOne ≤ m) : n ≤ x.toNat64 := by
  have truncated : x.truncate? = some ((m / unitsPerOne : Nat) : Int) := by
    rw [truncate?, exact, Option.map_some, Int.ofNat_tdiv]
  have reaches : n ≤ m / unitsPerOne := (Nat.le_div_iff_mul_le unitsPerOne_pos).mpr below
  generalize m / unitsPerOne = whole at truncated reaches
  have within : (n : Int) ≤ clamp 0 nat64Max whole := by
    unfold Natural.max64 at bits
    unfold clamp nat64Max
    split
    · omega
    · split <;> omega
  have cut : x.toNat64 = (clamp 0 nat64Max whole).toNat := by simp only [toNat64, saturate, truncated]
  rw [cut]
  omega

/-- Rounded to a double, doubled and cut off again, a natural number of 64 bits does not shrink. -/
theorem le_toNat64_doubled {n : Nat} (bits : n ≤ Natural.max64) : n ≤ ((ofInt n).mul (ofInt 2)).toNat64 := by
  obtain ⟨r, exact, above⟩ := units?_doubled bits
  exact le_toNat64 exact bits above

end ImageBatch.Double
