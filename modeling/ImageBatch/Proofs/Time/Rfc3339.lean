import ImageBatch.Proofs.Number.Reading
import ImageBatch.Proofs.Time.Calendar
import ImageBatch.Time.Rfc3339

/-!
Moments are read back from their text.

A number that was padded with zeros is taken again where its digits end (`Timestamp.takeNumber_digits`), and so is each
part of the text of a moment. What is taken counts back to the moment, as the calendar counts days
(`Timestamp.ofText?_toText`). Whatever text a moment is read from, the calendar has it (`Timestamp.valid_of_ofText?`).
-/

namespace ImageBatch

namespace Timestamp

variable {width n : Nat} {chars rest : List Char} {t : Timestamp}

/-- These characters are digits, and there is one. -/
def AreDigits (chars : List Char) : Prop := chars ≠ [] ∧ ∀ c ∈ chars, c.isDigit = true

theorem areDigits_padLeft (width n : Nat) : AreDigits (padLeft width n) := by
  constructor
  · exact List.append_ne_nil_of_right_ne_nil _ Nat.toDigits_ne_nil
  · intro c member
    rcases List.mem_append.mp member with zero | digit
    · rw [List.eq_of_mem_replicate zero]
      rfl
    · exact Nat.isDigit_of_mem_toDigits (by decide) (by decide) digit

theorem length_padLeft (limit : Nat) (positive : 0 < width) (power : Nat.pow 10 width = limit) (small : n < limit) :
    (padLeft width n).length = width := by
  have short := (Nat.length_toDigits_le_iff (b := 10) (by decide) positive).mpr (power ▸ small)
  simp only [padLeft, List.length_append, List.length_replicate]
  omega

theorem readDigits_padLeft (width n : Nat) : Natural.readDigits 0 (padLeft width n) = some n := by
  rw [Natural.readDigits_eq (areDigits_padLeft width n).2, padLeft, Nat.ofDigitChars_append,
    Nat.ofDigitChars_replicate_zero, Nat.mul_zero, Nat.ofDigitChars_ten_toDigits]

/-- What follows does not begin with a digit. -/
def NoDigit (rest : List Char) : Prop := ∀ c ∈ rest.head?, Natural.digit? c = none

theorem takeWhile_digits (digits : ∀ c ∈ chars, c.isDigit = true) (ends : NoDigit rest) :
    (chars ++ rest).takeWhile (fun c => (Natural.digit? c).isSome) = chars := by
  rw [List.takeWhile_append_of_pos fun c member => by rw [Natural.digit?_eq (digits c member)]; rfl]
  cases rest with
  | nil => simp
  | cons c rest => simp [ends c rfl]

/-- As many digits as there are, or as may be, are taken as a number. -/
theorem takeNumber_digits {most : Nat} (digits : AreDigits chars) (read : Natural.readDigits 0 chars = some n)
    (small : n ≤ 0x7fffffffffffffff) (stops : chars.length = most ∨ chars.length ≤ most ∧ NoDigit rest) :
    takeNumber most (chars ++ rest) = some (n, rest) := by
  have taken : ((chars ++ rest).take most).takeWhile (fun c => (Natural.digit? c).isSome) = chars := by
    rw [List.take_append]
    rcases stops with rfl | ⟨short, ends⟩
    · rw [List.take_length, Nat.sub_self, List.take_zero]
      exact takeWhile_digits digits.2 nofun
    · rw [List.take_of_length_le short]
      refine takeWhile_digits digits.2 fun c first => ends c ?_
      rw [List.head?_take] at first
      split at first
      · cases first
      · exact first
  unfold takeNumber
  simp only [taken, List.isEmpty_iff, digits.1, if_false, read, Option.filter_some, decide_eq_true small, if_true,
    Option.map_some, List.drop_left]

theorem isBlank_of_isDigit {c : Char} (digit : c.isDigit = true) : Text.isBlank c = false := by
  have bounds : 48 ≤ c.toNat ∧ c.toNat ≤ 57 := by
    simpa [Char.isDigit, UInt32.le_iff_toNat_le] using digit
  simp only [Text.isBlank, Bool.or_eq_false_iff, Bool.and_eq_false_iff, decide_eq_false_iff_not, beq_eq_false_iff_ne]
  omega

theorem trimStart_digits (digits : AreDigits chars) (rest : List Char) :
    Text.trimStart (chars ++ rest) = chars ++ rest := by
  obtain ⟨c, more, rfl⟩ := List.exists_cons_of_ne_nil digits.1
  exact List.dropWhile_cons_of_neg (by simp [isBlank_of_isDigit (digits.2 c List.mem_cons_self)])

/-! ### Parts -/

theorem takeField_padLeft {lo hi : Nat} (least : lo ≤ n) (most : n ≤ hi) (two : hi < 100) (rest : List Char) :
    takeField lo hi (padLeft 2 n ++ rest) = some (n, rest) := by
  have taken : takeNumber 2 (padLeft 2 n ++ rest) = some (n, rest) :=
    takeNumber_digits (areDigits_padLeft 2 n) (readDigits_padLeft 2 n) (by omega)
      (.inl (length_padLeft 100 (by decide) rfl (by omega)))
  rw [takeField, trimStart_digits (areDigits_padLeft 2 n), taken]
  simp [least, most]

theorem takeYear_yearChars {year : Int} (lo : -262143 ≤ year) (hi : year ≤ 262142) (rest : List Char) :
    takeYear (yearChars year ++ '-' :: rest) = some (year, '-' :: rest) := by
  have dash : NoDigit ('-' :: rest) := fun c first => by cases first; rfl
  have signed (n : Nat) (small : n ≤ 262143) :
      takeNumber (padLeft 4 n ++ '-' :: rest).length (padLeft 4 n ++ '-' :: rest) = some (n, '-' :: rest) :=
    takeNumber_digits (areDigits_padLeft 4 n) (readDigits_padLeft 4 n) (by omega)
      (.inr ⟨by simp, dash⟩)
  unfold yearChars
  split
  next plain =>
      have taken : takeNumber 4 (padLeft 4 year.toNat ++ '-' :: rest) = some (year.toNat, '-' :: rest) :=
        takeNumber_digits (areDigits_padLeft 4 _) (readDigits_padLeft 4 _) (by omega)
          (.inl (length_padLeft 10000 (by decide) rfl (by omega)))
      have whole : ((year.toNat : Nat) : Int) = year := Int.toNat_of_nonneg plain.1
      have digits := areDigits_padLeft 4 year.toNat
      rw [takeYear, trimStart_digits digits]
      obtain ⟨c, more, same⟩ := List.exists_cons_of_ne_nil digits.1
      have digit := digits.2 c (same ▸ List.mem_cons_self)
      rw [same] at taken ⊢
      split
      next minus =>
          cases minus
          cases digit
      next plus =>
          cases plus
          cases digit
      next =>
          rw [taken]
          exact congrArg (fun year => some (year, '-' :: rest)) whole
  next other =>
      by_cases negative : year < 0
      · have whole : -((year.natAbs : Nat) : Int) = year := by omega
        rw [if_pos negative]
        refine (congrArg (Option.map _) (signed year.natAbs (by omega))).trans ?_
        exact congrArg (fun year => some (year, '-' :: rest)) whole
      · have whole : ((year.natAbs : Nat) : Int) = year := by omega
        rw [if_neg negative]
        refine (congrArg (Option.map _) (signed year.natAbs (by omega))).trans ?_
        exact congrArg (fun year => some (year, '-' :: rest)) whole

theorem takeFraction_padLeft (limit scale : Nat) (positive : 0 < width) (short : width ≤ 9)
    (power : Nat.pow 10 width = limit) (scaled : Nat.pow 10 (9 - width) = scale) (small : n < limit) :
    takeFraction ('.' :: (padLeft width n ++ ['Z'])) = some (n * scale, ['Z']) := by
  have length := length_padLeft limit positive power small
  have bound : limit ≤ 1000000000 := power ▸ Nat.pow_le_pow_right (by decide) short
  have taken : takeNumber 9 (padLeft width n ++ ['Z']) = some (n, ['Z']) :=
    takeNumber_digits (areDigits_padLeft width n) (readDigits_padLeft width n) (by omega)
      (.inr ⟨by omega, fun c first => by cases first; rfl⟩)
  have after : ['Z'].dropWhile (fun c => (Natural.digit? c).isSome) = ['Z'] := by decide
  simp only [takeFraction, taken, Option.map_some, after, List.length_append, length, Nat.add_sub_cancel, scaled]

theorem takeFraction_fractionChars {nanos : Nat} (small : nanos < 1000000000) :
    takeFraction (fractionChars nanos ++ ['Z']) = some (nanos, ['Z']) := by
  unfold fractionChars
  split
  next none_ =>
      subst none_
      rfl
  next =>
  split
  next millis =>
      rw [List.cons_append, takeFraction_padLeft 1000 1000000 (by decide) (by decide) rfl rfl (by omega)]
      exact congrArg (fun n => some (n, ['Z'])) (by omega)
  next =>
  split
  next micros =>
      rw [List.cons_append, takeFraction_padLeft 1000000 1000 (by decide) (by decide) rfl rfl (by omega)]
      exact congrArg (fun n => some (n, ['Z'])) (by omega)
  next =>
      rw [List.cons_append, takeFraction_padLeft 1000000000 1 (by decide) (by decide) rfl rfl (by omega)]
      exact congrArg (fun n => some (n, ['Z'])) (by omega)

theorem takeMark_cons {mark : Char} (visible : Text.isBlank mark = false) (rest : List Char) :
    takeMark mark (mark :: rest) = some rest := by
  rw [takeMark, Text.trimStart, List.dropWhile_cons_of_neg (by simp [visible])]
  exact if_pos rfl

/-! ### Moments that are written -/

/-- A moment that the calendar has. A leap second is the last second of a minute. -/
structure Valid (t : Timestamp) : Prop where
  inRange : t.inRange = true
  nanos : t.nanos < 1000000000 ∨ t.nanos < 2000000000 ∧ t.seconds % 60 = 59

instance (t : Timestamp) : Decidable t.Valid :=
  decidable_of_iff (t.inRange = true ∧ (t.nanos < 1000000000 ∨ t.nanos < 2000000000 ∧ t.seconds % 60 = 59))
    ⟨fun ⟨inRange, nanos⟩ => ⟨inRange, nanos⟩, fun ⟨inRange, nanos⟩ => ⟨inRange, nanos⟩⟩

/-- Up to a moment that the calendar has, it has every moment after a first one. -/
theorem Valid.plus (valid : t.Valid) {d e : Nat} (sooner : d ≤ e) (inRange : (t.plus e).inRange = true) :
    (t.plus d).Valid := by
  obtain ⟨first, nanos⟩ := valid
  simp only [Timestamp.inRange, Bool.and_eq_true, decide_eq_true_eq] at first inRange
  constructor
  · simp only [Timestamp.inRange, Bool.and_eq_true, decide_eq_true_eq]
    unfold Timestamp.plus at inRange ⊢
    grind
  · unfold Timestamp.plus
    grind

/-- The parts of a moment, and how the moment is made of them. -/
theorem Valid.parts (valid : t.Valid) {second leap : Nat} (clock : second = (t.seconds % 86400).toNat)
    (extra : leap = t.nanos / 1000000000) :
    second / 3600 ≤ 23 ∧ second / 60 % 60 ≤ 59 ∧ second % 60 + leap ≤ 60 ∧ (second % 60 + leap) / 60 = leap ∧
      t.seconds / 86400 * 86400 + (second / 3600 : Nat) * 3600 + (second / 60 % 60 : Nat) * 60 +
        (second % 60 + leap - leap : Nat) - 0 = t.seconds ∧
      t.nanos % 1000000000 + leap * 1000000000 = t.nanos := by
  have nanos := valid.nanos
  omega

/-- What is found is gone on with. -/
theorem bind_eq_some {α β : Type} {found : Option α} {a : α} {rest : α → Option β} {b : β} (same : found = some a)
    (done : rest a = some b) : (found >>= rest) = some b := by
  rw [same]
  exact done

/-- A moment is read back from its text. -/
theorem ofText?_toText (valid : t.Valid) : ofText? t.toText = some t := by
  have range : firstSecond ≤ t.seconds ∧ t.seconds ≤ lastSecond := by simpa [Timestamp.inRange] using valid.inRange
  unfold firstSecond lastSecond at range
  obtain ⟨lo, hi⟩ := Date.year_ofDays_bounds (t.seconds / 86400) (by omega) (by omega)
  have counted := Date.toDays_ofDays (t.seconds / 86400)
  have dated := Date.isValid_ofDays (t.seconds / 86400)
  obtain ⟨hours, minutes, seconds, leaps, whole, nanos⟩ := valid.parts rfl rfl
  have chars : t.toText.toList = t.localChars ++ ['Z'] := String.toList_ofList
  unfold localChars at chars
  generalize Date.ofDays (t.seconds / 86400) = date at *
  generalize (t.seconds % 86400).toNat = second at *
  generalize t.nanos / 1000000000 = leap at *
  have fields : (1 ≤ date.month ∧ date.month ≤ 12) ∧ 1 ≤ date.day ∧ date.day ≤ 31 := by
    have long : Date.daysInMonth date.year date.month ≤ 31 := by
      unfold Date.daysInMonth
      split
      · split <;> decide
      · split <;> decide
    simp only [Date.isValid, Bool.and_eq_true, decide_eq_true_eq] at dated
    omega
  simp only [List.append_assoc, List.cons_append] at chars
  have dash : Text.isBlank '-' = false := rfl
  have colon : Text.isBlank ':' = false := rfl
  unfold ofText?
  rw [chars]
  refine bind_eq_some (takeYear_yearChars lo hi _) (bind_eq_some (takeMark_cons dash _) ?_)
  refine bind_eq_some (takeField_padLeft fields.1.1 fields.1.2 (by decide) _) (bind_eq_some (takeMark_cons dash _) ?_)
  refine bind_eq_some (takeField_padLeft fields.2.1 fields.2.2 (by decide) _) (bind_eq_some rfl ?_)
  refine bind_eq_some (takeField_padLeft (Nat.zero_le _) hours (by decide) _) (bind_eq_some (takeMark_cons colon _) ?_)
  refine bind_eq_some (takeField_padLeft (Nat.zero_le _) minutes (by decide) _) ?_
  refine bind_eq_some (takeMark_cons colon _) ?_
  refine bind_eq_some (takeField_padLeft (Nat.zero_le _) seconds (by decide) _) ?_
  refine bind_eq_some (takeFraction_fractionChars (Nat.mod_lt t.nanos (by decide))) ?_
  refine bind_eq_some (show takeOffset (Text.trimStart ['Z']) = some (0, []) by decide) ?_
  have years : isYear date.year = true := by simp [isYear, lo, hi]
  simp only [leaps, counted, whole, nanos]
  exact if_pos ⟨rfl, years, dated, by decide, valid.inRange⟩

/-! ### Moments that are read -/

/-- A number that is taken is less than its digits allow. -/
theorem takeNumber_lt {most : Nat} (taken : takeNumber most chars = some (n, rest)) :
    chars.length - rest.length ≤ most ∧ n < Nat.pow 10 (chars.length - rest.length) := by
  unfold takeNumber at taken
  have short := (List.takeWhile_sublist (l := chars.take most) fun c => (Natural.digit? c).isSome).length_le
  generalize (chars.take most).takeWhile (fun c => (Natural.digit? c).isSome) = digits at *
  rw [List.length_take] at short
  dsimp only at taken
  split at taken
  · cases taken
  obtain ⟨m, given, same⟩ := Option.map_eq_some_iff.mp taken
  cases same
  have read := Natural.readDigits_lt (Option.eq_some_of_filter_eq_some given)
  rw [Nat.zero_add, Nat.one_mul] at read
  have length : chars.length - (chars.drop digits.length).length = digits.length := by
    rw [List.length_drop]
    omega
  rw [length]
  exact ⟨by omega, read⟩

theorem takeFraction_lt {nanos : Nat} (taken : takeFraction chars = some (nanos, rest)) : nanos < 1000000000 := by
  unfold takeFraction at taken
  split at taken
  next digits =>
      obtain ⟨⟨m, after⟩, number, same⟩ := Option.map_eq_some_iff.mp taken
      cases same
      obtain ⟨few, small⟩ := takeNumber_lt number
      generalize digits.length - after.length = width at *
      calc m * Nat.pow 10 (9 - width) < Nat.pow 10 width * Nat.pow 10 (9 - width) :=
            Nat.mul_lt_mul_of_pos_right small (Nat.pow_pos (by decide))
        _ = Nat.pow 10 (width + (9 - width)) := (Nat.pow_add 10 width (9 - width)).symm
        _ = 1000000000 := congrArg (Nat.pow 10) (Nat.add_sub_of_le few)
  next =>
      cases taken
      decide

/-- Offsets are whole minutes. -/
theorem takeOffset_minutes {offset : Int} (taken : takeOffset chars = some (offset, rest)) : offset % 60 = 0 := by
  have minutes {cs after : List Char} {s : Nat} (given : takeHoursMinutes cs = some (s, after)) : s % 60 = 0 := by
    simp only [takeHoursMinutes, Option.bind_eq_bind, Option.bind_eq_some_iff] at given
    obtain ⟨⟨hours, _⟩, -, ⟨minutes, _⟩, -, given⟩ := given
    split at given
    · cases given
      omega
    · cases given
  unfold takeOffset at taken
  split at taken
  · cases taken
    rfl
  split at taken
  · cases taken
  split at taken
  · cases taken
    rfl
  split at taken
  · obtain ⟨⟨s, _⟩, given, same⟩ := Option.map_eq_some_iff.mp taken
    cases same
    have := minutes given
    omega
  split at taken
  · obtain ⟨⟨s, _⟩, given, same⟩ := Option.map_eq_some_iff.mp taken
    cases same
    have := minutes given
    omega
  · cases taken

/-- A sixtieth second ends the minute before it, wherever the offset puts that minute. -/
theorem valid_of_parts {days offset : Int} {hour minute second nanos : Nat} (clock : second ≤ 60)
    (fraction : nanos < 1000000000) (shift : offset % 60 = 0)
    (made : t = ⟨days * 86400 + hour * 3600 + minute * 60 + (second - second / 60 : Nat) - offset,
      nanos + second / 60 * 1000000000⟩) (inRange : t.inRange = true) : t.Valid := by
  refine ⟨inRange, ?_⟩
  rw [made]
  dsimp only
  obtain rfl | plain : second = 60 ∨ second / 60 = 0 := by omega
  · omega
  · omega

/-- A moment that is read is one that the calendar has. -/
theorem valid_of_ofText? {text : String} (read : ofText? text = some t) : t.Valid := by
  unfold ofText? at read
  obtain ⟨⟨year, _⟩, -, read⟩ := Option.bind_eq_some_iff.mp read
  obtain ⟨_, -, read⟩ := Option.bind_eq_some_iff.mp read
  obtain ⟨⟨month, _⟩, -, read⟩ := Option.bind_eq_some_iff.mp read
  obtain ⟨_, -, read⟩ := Option.bind_eq_some_iff.mp read
  obtain ⟨⟨day, _⟩, -, read⟩ := Option.bind_eq_some_iff.mp read
  dsimp only at read
  split at read
  · split at read
    · obtain ⟨_, -, read⟩ := Option.bind_eq_some_iff.mp read
      obtain ⟨⟨hour, _⟩, -, read⟩ := Option.bind_eq_some_iff.mp read
      obtain ⟨_, -, read⟩ := Option.bind_eq_some_iff.mp read
      obtain ⟨⟨minute, _⟩, -, read⟩ := Option.bind_eq_some_iff.mp read
      obtain ⟨_, -, read⟩ := Option.bind_eq_some_iff.mp read
      obtain ⟨⟨second, _⟩, clock, read⟩ := Option.bind_eq_some_iff.mp read
      obtain ⟨⟨nanos, _⟩, fraction, read⟩ := Option.bind_eq_some_iff.mp read
      obtain ⟨⟨offset, _⟩, shift, read⟩ := Option.bind_eq_some_iff.mp read
      have bounds := (Option.filter_eq_some_iff.mp clock).2
      simp only [Bool.and_eq_true, decide_eq_true_eq] at bounds
      obtain ⟨⟨-, -, -, -, inRange⟩, made⟩ := Option.ite_none_right_eq_some.mp read
      have made := Option.some.inj made
      exact valid_of_parts bounds.2 (takeFraction_lt fraction) (takeOffset_minutes shift) made.symm (made ▸ inRange)
    · cases read
  · cases read

end Timestamp

end ImageBatch
