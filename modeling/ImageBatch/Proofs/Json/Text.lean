import ImageBatch.Json.Printer
import ImageBatch.Json.Scan

/-!
Texts and natural numbers of a document read back.

`Bytes.ofChars` are the bytes of characters. `scanText_quote` reads a quoted text back, whatever its characters,
and `scanNumber_digits` the digits of a natural number of 64 bits.
-/

namespace ImageBatch

/-- The bytes of characters in UTF-8. -/
def Bytes.ofChars (chars : List Char) : Bytes := chars.flatMap String.utf8EncodeChar

namespace Bytes

@[simp] theorem ofChars_nil : ofChars [] = [] := rfl

@[simp] theorem ofChars_cons (c : Char) (chars : List Char) :
    ofChars (c :: chars) = String.utf8EncodeChar c ++ ofChars chars := rfl

@[simp] theorem ofChars_append (chars more : List Char) :
    ofChars (chars ++ more) = ofChars chars ++ ofChars more := by
  simp [ofChars]

theorem length_le_ofChars (chars : List Char) : chars.length ≤ (ofChars chars).length := by
  induction chars with
  | nil => simp
  | cons c rest ih =>
      have some_ : 0 < (String.utf8EncodeChar c).length := by
        rw [String.length_utf8EncodeChar]
        exact c.utf8Size_pos
      simp only [ofChars_cons, List.length_append, List.length_cons]
      omega

/-! ### Byte arrays -/

theorem toList_loop (bytes : ByteArray) (i : Nat) (read : List UInt8) :
    ByteArray.toList.loop bytes i read = read.reverse ++ bytes.data.toList.drop i := by
  fun_induction ByteArray.toList.loop bytes i read with
  | case1 i read more ih =>
      have inside : i < bytes.data.toList.length := by simpa using more
      rw [ih, List.drop_eq_getElem_cons inside]
      simp [ByteArray.get!, getElem!_pos, more]
  | case2 i read ended =>
      have outside : bytes.data.toList.length ≤ i := by simpa using ended
      rw [List.drop_eq_nil_of_le outside, List.append_nil]

theorem toBytes_ofList (chars : List Char) : Text.toBytes (String.ofList chars) = ofChars chars := by
  simp [Text.toBytes, ofChars, List.utf8Encode, ByteArray.toList, toList_loop]

/-- The bytes of a text are well-formed. -/
theorem fromBytes?_ofChars (s : String) : Text.fromBytes? (ofChars s.toList) = some s := by
  have same : (ofChars s.toList).toByteArray = s.toByteArray := String.utf8Encode_toList
  have valid : s.toByteArray.IsValidUTF8 := s.isValidUTF8
  unfold Text.fromBytes? String.fromUTF8?
  simp only [same, dif_pos valid]
  rfl

/-- A character of ASCII is one byte. -/
theorem utf8EncodeChar_ascii {c : Char} (ascii : c.toNat ≤ 0x7f) :
    String.utf8EncodeChar c = [UInt8.ofNat c.toNat] := by
  unfold String.utf8EncodeChar
  exact if_pos ascii

/-- A character of ASCII in front is a byte in front. -/
theorem ofChars_ascii {c : Char} (ascii : c.toNat ≤ 0x7f) (chars : List Char) (rest : Bytes) :
    ofChars (c :: chars) ++ rest = Document.byte c :: (ofChars chars ++ rest) := by
  rw [ofChars_cons, utf8EncodeChar_ascii ascii]
  rfl

/-- Any other character has bytes beyond ASCII only. -/
theorem utf8EncodeChar_beyond {c : Char} (beyond : 0x7f < c.toNat) :
    ∀ b ∈ String.utf8EncodeChar c, 0x80 ≤ b.toNat := by
  have no : ¬ c.val.toNat ≤ 0x7f := Nat.not_le.mpr beyond
  have byte (n : Nat) (lo : 0x80 ≤ n) (hi : n < 256) : 0x80 ≤ (UInt8.ofNat n).toNat := by
    rw [UInt8.toNat_ofNat', Nat.mod_eq_of_lt hi]
    exact lo
  unfold String.utf8EncodeChar
  simp only [no, if_false]
  split
  · simp only [List.forall_mem_cons, List.not_mem_nil, false_imp_iff, implies_true, and_true]
    refine ⟨byte _ ?_ ?_, byte _ ?_ ?_⟩ <;> omega
  · split
    · simp only [List.forall_mem_cons, List.not_mem_nil, false_imp_iff, implies_true, and_true]
      refine ⟨byte _ ?_ ?_, byte _ ?_ ?_, byte _ ?_ ?_⟩ <;> omega
    · simp only [List.forall_mem_cons, List.not_mem_nil, false_imp_iff, implies_true, and_true]
      refine ⟨byte _ ?_ ?_, byte _ ?_ ?_, byte _ ?_ ?_, byte _ ?_ ?_⟩ <;> omega

end Bytes

namespace Document

open Bytes

/-! ### Texts -/

/-- A byte that stands for itself in a text. -/
def IsPlainByte (b : UInt8) : Prop := b ≠ byte '"' ∧ b ≠ byte '\\' ∧ ¬ b < 0x20

theorem scanText_close (read : Option Bytes) (rest : Bytes) :
    scanText read (byte '"' :: rest) = some (read.bind fun r => Text.fromBytes? r.reverse, rest) := by
  rw [scanText.eq_def]
  rfl

theorem scanText_cons {b : UInt8} (plain : IsPlainByte b) (read : Option Bytes) (rest : Bytes) :
    scanText read (b :: rest) = scanText (push [b] read) rest := by
  obtain ⟨noQuote, noEscape, visible⟩ := plain
  rw [scanText.eq_def]
  simp only [noQuote, noEscape, visible, if_false]

theorem scanText_letter {e c : UInt8} (letter : e ≠ byte 'u') (escape : simpleEscape? e = some c)
    (read : Option Bytes) (rest : Bytes) :
    scanText read (byte '\\' :: e :: rest) = scanText (push [c] read) rest := by
  have different : byte '\\' ≠ byte '"' := by decide
  rw [scanText.eq_def]
  simp only [different, letter, escape, if_true, if_false]

theorem scanText_unit {a b c d : UInt8} {unit : Nat} (digits : hex4? a b c d = some unit)
    (whole : unit < 0xd800) (read : Option Bytes) (rest : Bytes) :
    scanText read (byte '\\' :: byte 'u' :: a :: b :: c :: d :: rest) =
      scanText (push (codePoint unit) read) rest := by
  have different : byte '\\' ≠ byte '"' := by decide
  rw [scanText.eq_def]
  simp only [different, digits, whole, if_true, if_false, true_or]

theorem scanText_plain {bytes : Bytes} (plain : ∀ b ∈ bytes, IsPlainByte b) (read rest : Bytes) :
    scanText (some read) (bytes ++ rest) = scanText (some (bytes.reverse ++ read)) rest := by
  induction bytes generalizing read with
  | nil => rfl
  | cons b more ih =>
      rw [List.cons_append, scanText_cons (plain b List.mem_cons_self), push, Option.map_some,
        ih fun b member => plain b (List.mem_cons_of_mem _ member)]
      simp

/-- The bytes of a character that needs no escape stand for themselves. -/
theorem isPlainByte_of_visible {c : Char} (noQuote : c ≠ '"') (noEscape : c ≠ '\\') (visible : 0x20 ≤ c.toNat) :
    ∀ b ∈ String.utf8EncodeChar c, IsPlainByte b := by
  by_cases ascii : c.toNat ≤ 0x7f
  · rw [utf8EncodeChar_ascii ascii]
    have injective {d : Char} (small : d.toNat ≤ 0x7f) (ne : c ≠ d) : UInt8.ofNat c.toNat ≠ byte d := by
      intro same
      have same := congrArg UInt8.toNat same
      simp only [byte, UInt8.toNat_ofNat'] at same
      rw [Nat.mod_eq_of_lt (by omega), Nat.mod_eq_of_lt (by omega)] at same
      exact ne (Char.toNat_inj.mp same)
    rintro b member
    obtain rfl := List.mem_singleton.mp member
    refine ⟨injective (by decide) noQuote, injective (by decide) noEscape, ?_⟩
    rw [UInt8.lt_iff_toNat_lt, UInt8.toNat_ofNat', Nat.mod_eq_of_lt (by omega)]
    exact Nat.not_lt.mpr visible
  · intro b member
    have beyond := utf8EncodeChar_beyond (Nat.not_le.mp ascii) b member
    refine ⟨?_, ?_, ?_⟩
    · rintro rfl
      revert beyond
      decide
    · rintro rfl
      revert beyond
      decide
    · rw [UInt8.lt_iff_toNat_lt]
      have : (0x20 : UInt8).toNat = 32 := rfl
      omega

theorem utf8EncodeChar_hexDigit (n : Fin 16) :
    String.utf8EncodeChar (Json.hexDigit n) = [byte (Json.hexDigit n)] := by
  revert n
  decide

theorem hex4?_hexDigit (n : Fin 32) : hex4? (byte '0') (byte '0') (byte (Json.hexDigit (n / 16)))
    (byte (Json.hexDigit (n % 16))) = some n := by
  revert n
  decide

/-- A control below the space is read back from its four digits. -/
theorem scanText_control {c : Char} (control : c.toNat < 0x20) (read rest : Bytes) :
    scanText (some read) (ofChars ['\\', 'u', '0', '0', Json.hexDigit (c.toNat / 16),
        Json.hexDigit (c.toNat % 16)] ++ rest) =
      scanText (some ((String.utf8EncodeChar c).reverse ++ read)) rest := by
  have high := utf8EncodeChar_hexDigit ⟨c.toNat / 16, by omega⟩
  have low := utf8EncodeChar_hexDigit ⟨c.toNat % 16, by omega⟩
  have digits := hex4?_hexDigit ⟨c.toNat, control⟩
  have whole := scanText_unit digits (by exact Nat.lt_trans control (by decide)) (some read) rest
  have fixed : ofChars ['\\', 'u', '0', '0'] = [byte '\\', byte 'u', byte '0', byte '0'] := by decide
  have pair : ofChars [Json.hexDigit (c.toNat / 16), Json.hexDigit (c.toNat % 16)] =
      [byte (Json.hexDigit (c.toNat / 16)), byte (Json.hexDigit (c.toNat % 16))] := by simp [high, low]
  have written := ofChars_append ['\\', 'u', '0', '0']
    [Json.hexDigit (c.toNat / 16), Json.hexDigit (c.toNat % 16)]
  rw [fixed, pair] at written
  simp only [List.cons_append, List.nil_append] at written
  rw [written]
  simpa [codePoint, push] using whole

/-- An escaped character is read back. -/
theorem scanText_escapeChar (c : Char) (read rest : Bytes) :
    scanText (some read) (ofChars (Json.escapeChar c) ++ rest) =
      scanText (some ((String.utf8EncodeChar c).reverse ++ read)) rest := by
  unfold Json.escapeChar
  split
  next same => subst same; exact scanText_letter (by decide) (by decide) ..
  next noQuote =>
  split
  next same => subst same; exact scanText_letter (by decide) (by decide) ..
  next noEscape =>
  split
  next same => subst same; exact scanText_letter (by decide) (by decide) ..
  split
  next same => subst same; exact scanText_letter (by decide) (by decide) ..
  split
  next same => subst same; exact scanText_letter (by decide) (by decide) ..
  split
  next same => subst same; exact scanText_letter (by decide) (by decide) ..
  split
  next same => subst same; exact scanText_letter (by decide) (by decide) ..
  split
  next control => exact scanText_control control read rest
  next visible =>
    rw [ofChars_cons, ofChars_nil, List.append_nil]
    exact scanText_plain (isPlainByte_of_visible noQuote noEscape (Nat.not_lt.mp visible)) read rest

theorem scanText_escaped (chars : List Char) (read rest : Bytes) :
    scanText (some read) (ofChars (chars.flatMap Json.escapeChar) ++ rest) =
      scanText (some ((ofChars chars).reverse ++ read)) rest := by
  induction chars generalizing read with
  | nil => rfl
  | cons c more ih =>
      rw [List.flatMap_cons, ofChars_append, List.append_assoc, scanText_escapeChar, ih]
      simp

/-- A text between quotes is read back. -/
theorem scanText_quote (s : String) (rest : Bytes) :
    scanText (some []) (ofChars (s.toList.flatMap Json.escapeChar) ++ (byte '"' :: rest)) =
      some (some s, rest) := by
  rw [scanText_escaped, scanText_close]
  simp [fromBytes?_ofChars]

/-! ### Natural numbers -/

/-- The values of the digits of a number. -/
def digitValues (n : Nat) : List Nat := (Nat.toDigits 10 n).map fun c => c.toNat - 48

theorem foldl_digitValues (n : Nat) : (digitValues n).foldl (fun value d => value * 10 + d) 0 = n := by
  have whole : Nat.ofDigitChars 10 (Nat.toDigits 10 n) 0 = n := Nat.ofDigitChars_ten_toDigits
  rw [Nat.ofDigitChars_eq_foldl] at whole
  simpa [digitValues, List.foldl_map, Nat.mul_comm] using whole

/-- No number but a single digit begins with a zero. -/
theorem digitValues_cons (n : Nat) : ∃ d rest, digitValues n = d :: rest ∧ (d = 0 → rest = []) := by
  induction n using Nat.strongRecOn with
  | ind n ih =>
      unfold digitValues
      rw [Nat.toDigits_eq_if (by decide)]
      split
      next small => exact ⟨_, [], rfl, fun _ => rfl⟩
      next large =>
          obtain ⟨d, rest, same, leading⟩ := ih (n / 10) (by omega)
          unfold digitValues at same
          rw [List.map_append, same]
          refine ⟨d, rest ++ _, rfl, fun zero => ?_⟩
          -- A number that begins with a zero is zero, and then so is the last but one.
          have alone := leading zero
          have value := foldl_digitValues (n / 10)
          simp only [digitValues, same, alone, zero, List.foldl_cons, List.foldl_nil] at value
          omega

theorem le_foldl_digits (digits : List Nat) (value : Nat) :
    value ≤ digits.foldl (fun value d => value * 10 + d) value := by
  induction digits generalizing value with
  | nil => exact Nat.le_refl value
  | cons d rest ih => exact Nat.le_trans (by omega) (ih (value * 10 + d))

/-- Digits of a number of 64 bits are all taken. -/
theorem takeDigits_eq (digits : List Nat) (value taken : Nat)
    (small : digits.foldl (fun value d => value * 10 + d) value ≤ Natural.max64) :
    Json.Numeral.takeDigits value taken digits =
      (digits.foldl (fun value d => value * 10 + d) value, taken + digits.length, 0) := by
  induction digits generalizing value taken with
  | nil => rfl
  | cons d rest ih =>
      have next : value * 10 + d ≤ Natural.max64 := Nat.le_trans (le_foldl_digits rest _) small
      simp only [Json.Numeral.takeDigits, next, if_true, List.foldl_cons, List.length_cons]
      rw [ih _ _ small]
      simp only [Prod.mk.injEq, true_and, and_true]
      omega

/-- What follows does not go on with a number. -/
def Stops : Bytes → Prop
  | [] => True
  | b :: _ => digit? b = none ∧ b ≠ byte '.' ∧ b ≠ byte 'e' ∧ b ≠ byte 'E'

theorem digit?_byte {c : Char} (digit : c.isDigit = true) :
    String.utf8EncodeChar c = [byte c] ∧ digit? (byte c) = some (c.toNat - 48) := by
  have bounds : 48 ≤ c.toNat ∧ c.toNat ≤ 57 := by
    simpa [Char.isDigit, UInt32.le_iff_toNat_le] using digit
  refine ⟨utf8EncodeChar_ascii (by omega), ?_⟩
  have value : (byte c).toNat = c.toNat := by
    rw [byte, UInt8.toNat_ofNat', Nat.mod_eq_of_lt (by omega)]
  simp [digit?, value, bounds]

theorem scanDigits_append {chars : List Char} (digits : ∀ c ∈ chars, c.isDigit = true) {rest : Bytes}
    (stops : Stops rest) :
    scanDigits (ofChars chars ++ rest) = (chars.map fun c => c.toNat - 48, rest) := by
  induction chars with
  | nil =>
      cases rest with
      | nil => rfl
      | cons b more => simp [scanDigits, stops.1]
  | cons c more ih =>
      obtain ⟨one, value⟩ := digit?_byte (digits c List.mem_cons_self)
      have ih := ih fun c member => digits c (List.mem_cons_of_mem _ member)
      simp only [scanDigits, Prod.mk.injEq] at ih ⊢
      simp [one, value, ih]

/-- The digits of a natural number of 64 bits are read back. -/
theorem scanNumber_digits {n : Nat} (small : n ≤ Natural.max64) {rest : Bytes} (stops : Stops rest) :
    scanNumber false (ofChars (Nat.toDigits 10 n) ++ rest) = some (.number (some (.integer n)), rest) := by
  have digits : ∀ c ∈ Nat.toDigits 10 n, c.isDigit = true := fun c member =>
    Nat.isDigit_of_mem_toDigits (by decide) (by decide) member
  obtain ⟨d, more, values, leading⟩ := digitValues_cons n
  have fraction : scanFraction rest = some (none, rest) := by
    cases rest with
    | nil => rfl
    | cons b after => simp [scanFraction, stops.2.1]
  have exponent : scanExponent rest = some (none, rest) := by
    cases rest with
    | nil => rfl
    | cons b after => simp [scanExponent, stops.2.2.1, stops.2.2.2]
  have value : Json.Numeral.value? ⟨false, d :: more, none, none⟩ = some (.integer n) := by
    have whole := foldl_digitValues n
    rw [values] at whole
    simp [Json.Numeral.value?, takeDigits_eq (d :: more) 0 0 (by rwa [whole]), whole]
  have scanned := scanDigits_append digits stops
  rw [show (Nat.toDigits 10 n).map (fun c => c.toNat - 48) = d :: more from values] at scanned
  unfold scanNumber
  rw [scanned]
  cases d with
  | zero =>
      obtain rfl := leading rfl
      simp [fraction, exponent, value]
  | succ d => simp [fraction, exponent, value]

end Document

end ImageBatch
