/-!
Reading natural numbers from text.
-/

namespace ImageBatch.Natural

/-- The value of an ASCII digit. -/
def digit? (c : Char) : Option Nat :=
  if '0' ≤ c ∧ c ≤ '9' then some (c.toNat - '0'.toNat) else none

/-- The number that digits write after `value`, if all of them are digits. -/
def readDigits (value : Nat) : List Char → Option Nat
  | [] => some value
  | c :: rest => (digit? c).bind fun d => readDigits (value * 10 + d) rest

/-- A number of at most `limit`: digits, at least one, after a plus sign or none. -/
def read? (limit : Nat) (text : String) : Option Nat :=
  let digits :=
    match text.toList with
    | '+' :: rest => rest
    | cs => cs
  if digits.isEmpty then none
  else (readDigits 0 digits).filter (· ≤ limit)

/-- The greatest number of 64 bits. -/
def max64 : Nat := 0xffffffffffffffff

/-- The greatest number of 32 bits. -/
def max32 : Nat := 0xffffffff

end ImageBatch.Natural
