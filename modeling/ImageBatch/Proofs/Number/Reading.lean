import ImageBatch.Number.Natural

/-!
Numbers are read from their digits.

A list of characters is read as a number exactly if all of them are digits (`Natural.readDigits_eq_some`). So a text is
read as the number that it `Writes`, with a plus sign in front of the digits or none, if that is within the limit
(`Natural.read?_eq_some`).
-/

namespace ImageBatch.Natural

variable {text : String} {cs : List Char} {c : Char} {n limit digit value : Nat}

/-! ### Digits -/

theorem digit?_eq (digit : c.isDigit = true) : digit? c = some (c.toNat - '0'.toNat) := by
  have bounds : '0' ≤ c ∧ c ≤ '9' := by
    simpa [Char.isDigit, Char.le_def] using digit
  rw [digit?, if_pos bounds]

theorem isDigit_of_digit? (read : digit? c = some digit) : c.isDigit = true := by
  unfold digit? at read
  split at read
  next bounds => simpa [Char.isDigit, Char.le_def] using bounds
  next => cases read

theorem digit?_lt (read : digit? c = some digit) : digit < 10 := by
  unfold digit? at read
  split at read
  next bounds =>
      cases read
      have : c.toNat ≤ 57 := bounds.2
      have : '0'.toNat = 48 := rfl
      omega
  next => cases read

theorem readDigits_eq (digits : ∀ c ∈ cs, c.isDigit = true) (value : Nat) :
    readDigits value cs = some (Nat.ofDigitChars 10 cs value) := by
  induction cs generalizing value with
  | nil => rfl
  | cons c rest ih =>
      obtain ⟨digit, digits⟩ := List.forall_mem_cons.mp digits
      rw [readDigits, digit?_eq digit, Option.bind_some, ih digits, Nat.ofDigitChars_cons, Nat.mul_comm]

theorem readDigits_eq_some :
    readDigits value cs = some n ↔ (∀ c ∈ cs, c.isDigit = true) ∧ Nat.ofDigitChars 10 cs value = n := by
  constructor
  · intro read
    have digits : ∀ c ∈ cs, c.isDigit = true := by
      induction cs generalizing value with
      | nil => exact fun _ member => absurd member List.not_mem_nil
      | cons c rest ih =>
          obtain ⟨digit, one, read⟩ := Option.bind_eq_some_iff.mp read
          exact List.forall_mem_cons.mpr ⟨isDigit_of_digit? one, ih read⟩
    rw [readDigits_eq digits] at read
    exact ⟨digits, Option.some.inj read⟩
  · rintro ⟨digits, rfl⟩
    exact readDigits_eq digits value

/-- Each digit makes room for ten numbers where there was one. -/
theorem readDigits_lt (read : readDigits value cs = some n) :
    n < (value + 1) * Nat.pow 10 cs.length := by
  induction cs generalizing value with
  | nil =>
      cases read
      simp
  | cons c rest ih =>
      obtain ⟨digit, one, read⟩ := Option.bind_eq_some_iff.mp read
      have small := digit?_lt one
      calc n < (value * 10 + digit + 1) * Nat.pow 10 rest.length := ih read
        _ ≤ (value + 1) * 10 * Nat.pow 10 rest.length := Nat.mul_le_mul_right _ (by omega)
        _ = (value + 1) * Nat.pow 10 (c :: rest).length := by
          rw [Nat.mul_assoc, Nat.mul_comm 10]
          rfl

/-! ### Texts -/

/-- A text writes a number: digits, after a plus sign or none. -/
def Writes (text : String) (n : Nat) : Prop :=
  ∃ digits, digits ≠ [] ∧ (∀ c ∈ digits, c.isDigit = true) ∧ (text.toList = digits ∨ text.toList = '+' :: digits) ∧
    Nat.ofDigitChars 10 digits 0 = n

/-- What is left of a text without the sign in front of it. -/
theorem unsigned_eq_iff {digits : List Char} (plain : ∀ c ∈ digits, c.isDigit = true) :
    (match cs with
      | '+' :: rest => rest
      | unsigned => unsigned) = digits ↔ cs = digits ∨ cs = '+' :: digits := by
  split
  next rest =>
      constructor
      · rintro rfl
        exact .inr rfl
      · rintro (rfl | same)
        · exact absurd (plain '+' List.mem_cons_self) (by decide)
        · exact (List.cons.inj same).2
  next signless =>
      constructor
      · exact .inl
      · rintro (rfl | rfl)
        · rfl
        · exact absurd rfl (signless digits)

theorem read?_eq_some : read? limit text = some n ↔ Writes text n ∧ n ≤ limit := by
  unfold read? Writes
  extract_lets unsigned
  split
  next none_ =>
      constructor
      · intro read
        cases read
      · rintro ⟨⟨digits, some_, plain, written, -⟩, -⟩
        rw [← unsigned_eq_iff plain] at written
        exact absurd (written.symm.trans (List.isEmpty_iff.mp none_)) some_
  next some_ =>
      rw [Option.filter_eq_some_iff, readDigits_eq_some, decide_eq_true_eq]
      refine and_congr_left fun _ => ?_
      constructor
      · rintro ⟨plain, value⟩
        exact ⟨unsigned, fun none_ => some_ (List.isEmpty_iff.mpr none_), plain, (unsigned_eq_iff plain).mp rfl, value⟩
      · rintro ⟨digits, -, plain, written, value⟩
        obtain rfl : unsigned = digits := (unsigned_eq_iff plain).mpr written
        exact ⟨plain, value⟩

theorem le_of_read? (read : read? limit text = some n) : n ≤ limit := (read?_eq_some.mp read).2

theorem Writes.eq {other : Nat} (writes : Writes text n) (also_ : Writes text other) : n = other :=
  Option.some.inj ((read?_eq_some.mpr ⟨writes, n.le_max_left other⟩).symm.trans
    (read?_eq_some.mpr ⟨also_, n.le_max_right other⟩))

instance (text : String) (n : Nat) : Decidable (Writes text n) :=
  decidable_of_iff (read? n text = some n) (read?_eq_some.trans (and_iff_left n.le_refl))

end ImageBatch.Natural
