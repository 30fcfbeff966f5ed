import ImageBatch.Text.Utf8

/-!
Bytes as pairs of hexadecimal digits.

`Hex.ofBytes` writes two small digits for each byte, and `Hex.toBytes?` reads digits in either letter case;
reading what was written gives the bytes back.
-/

namespace ImageBatch.Hex

/-- The digit of a number below sixteen. -/
def digit (n : Nat) : Char := "0123456789abcdef".toList.getD n '0'

/-- The value of a digit. -/
def digit? (c : Char) : Option Nat :=
  if '0' ≤ c ∧ c ≤ '9' then some (c.toNat - 48)
  else if 'a' ≤ c ∧ c ≤ 'f' then some (c.toNat - 87)
  else if 'A' ≤ c ∧ c ≤ 'F' then some (c.toNat - 55)
  else none

/-- The two digits of a byte. -/
def digits (b : UInt8) : List Char := [digit (b.toNat / 16), digit (b.toNat % 16)]

def chars (bytes : Bytes) : List Char := bytes.flatMap digits

/-- Bytes in hexadecimal. -/
def ofBytes (bytes : Bytes) : String := String.ofList (chars bytes)

/-- The bytes that pairs of digits stand for. -/
def readChars : List Char → Option Bytes
  | [] => some []
  | a :: b :: rest => do
    let high ← digit? a
    let low ← digit? b
    return UInt8.ofNat (high * 16 + low) :: (← readChars rest)
  | [_] => none

/-- The bytes that a text in hexadecimal stands for. -/
def toBytes? (text : String) : Option Bytes := readChars text.toList

theorem digit?_digit (n : Fin 16) : digit? (digit n) = some n.val := by
  revert n
  decide

theorem readChars_chars (bytes : Bytes) : readChars (chars bytes) = some bytes := by
  induction bytes with
  | nil => rfl
  | cons b rest ih =>
    have high : digit? (digit (b.toNat / 16)) = some (b.toNat / 16) :=
      digit?_digit ⟨b.toNat / 16, by have := b.toNat_lt; omega⟩
    have low : digit? (digit (b.toNat % 16)) = some (b.toNat % 16) :=
      digit?_digit ⟨b.toNat % 16, by omega⟩
    have whole : b.toNat / 16 * 16 + b.toNat % 16 = b.toNat := by omega
    have step : chars (b :: rest) = digit (b.toNat / 16) :: digit (b.toNat % 16) :: chars rest := rfl
    rw [step]
    simp only [readChars, high, low, ih, Option.bind_eq_bind, Option.bind_some, whole, UInt8.ofNat_toNat]
    rfl

/-- Reading what was written gives the bytes back. -/
theorem toBytes?_ofBytes (bytes : Bytes) : toBytes? (ofBytes bytes) = some bytes := by
  simp [toBytes?, ofBytes, readChars_chars]

end ImageBatch.Hex
