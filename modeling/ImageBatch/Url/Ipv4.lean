import ImageBatch.Text.Hex
import ImageBatch.Text.Split

/-!
Addresses of 32 bits.

Up to four numbers with points between them, each decimal, or octal after a zero, or hexadecimal after `0x`.
The last number fills all the bytes that the others leave.
-/

namespace ImageBatch.Ipv4

/-- An address, below `2 ^ 32`. -/
abbrev Address := Nat

/-- Two to the power of 32. -/
def count : Nat := 0x100000000

/-- The number that digits of a base write after `value`, if all of them are digits. -/
def readDigits (base value : Nat) : List Char → Option Nat
  | [] => some value
  | c :: rest => do
    let d ← (Hex.digit? c).filter (· < base)
    readDigits base (value * base + d) rest

/-- A number of an address: the base is told by how it starts. -/
def readNumber? : List Char → Option Nat
  | [] => none
  | '0' :: 'x' :: rest | '0' :: 'X' :: rest => readDigits 16 0 rest
  | '0' :: c :: rest => readDigits 8 0 (c :: rest)
  | cs => readDigits 10 0 cs

/-- The parts between points; a point at the end does not begin another part. -/
def parts (cs : List Char) : List (List Char) :=
  let all := Text.splitOn (· == '.') cs
  if all.getLast? = some [] then all.dropLast else all

/-- A host is meant as an address if its last part is a number, or looks like one. -/
def isMeant (cs : List Char) : Bool :=
  match (parts cs).getLast? with
  | some last => !last.isEmpty && last.all (fun c => '0' ≤ c && c ≤ '9') || (readNumber? last).isSome
  | none => false

/-- The address of numbers: all but the last are bytes. -/
def ofNumbers (numbers : List Nat) : Option Address :=
  match numbers.getLast? with
  | none => none
  | some last =>
    let bytes := numbers.dropLast
    if 4 < numbers.length ∨ bytes.any (255 < ·) ∨ count ≤ last * Nat.pow 256 bytes.length then none
    else
      let high := bytes.foldl (fun n b => n * 256 + b) 0
      some (high * Nat.pow 256 (4 - bytes.length) + last)

def read? (cs : List Char) : Option Address := do ofNumbers (← (parts cs).mapM readNumber?)

/-- The four bytes of an address. -/
def bytes (a : Address) : List Nat := [a / 0x1000000, a / 0x10000 % 256, a / 0x100 % 256, a % 256]

/-- Four decimal numbers. -/
def text (a : Address) : String := ".".intercalate ((bytes a).map toString)

end ImageBatch.Ipv4
