import ImageBatch.Url.Ipv4

/-!
Addresses of 128 bits: eight pieces of 16 bits in hexadecimal, with colons between them.

Two colons together stand for one or more pieces that are zero. The last two pieces may be written as an
address of 32 bits in decimal.
-/

namespace ImageBatch.Ipv6

/-- Eight pieces, each below `2 ^ 16`. -/
abbrev Address := List Nat

/-- A piece: one to four hexadecimal digits. -/
def readPiece? (cs : List Char) : Option Nat :=
  if cs.isEmpty ∨ 4 < cs.length then none else Ipv4.readDigits 16 0 cs

/-- A decimal byte without a zero in front. -/
def readByte? (cs : List Char) : Option Nat :=
  if cs.isEmpty ∨ (cs.head? = some '0' ∧ 1 < cs.length) then none
  else (Ipv4.readDigits 10 0 cs).filter (· ≤ 255)

/-- Two pieces written as four decimal bytes. -/
def readBytes? (cs : List Char) : Option (List Nat) := do
  match ← (Text.splitOn (· == '.') cs).mapM readByte? with
  | [a, b, c, d] => return [a * 256 + b, c * 256 + d]
  | _ => none

/-- Pieces with colons between them; the last may be written as bytes where `bytesMayEnd`. -/
def readPieces? (bytesMayEnd : Bool) : (parts : List (List Char)) → Option (List Nat)
  | [] => some []
  | [last] =>
    if bytesMayEnd && last.contains '.' then readBytes? last else (readPiece? last).map fun piece => [piece]
  | part :: rest => do return (← readPiece? part) :: (← readPieces? bytesMayEnd rest)

/-- The pieces of a text that may be empty. -/
def readSide? (bytesMayEnd : Bool) (cs : List Char) : Option (List Nat) :=
  if cs.isEmpty then some [] else readPieces? bytesMayEnd (Text.splitOn (· == ':') cs)

/-- What stands before the first two colons, and after them. -/
def splitAtGap : List Char → Option (List Char × List Char)
  | ':' :: ':' :: rest => some ([], rest)
  | c :: rest => (splitAtGap rest).map fun (before, after) => (c :: before, after)
  | [] => none

def read? (cs : List Char) : Option Address :=
  match splitAtGap cs with
  | none => (readSide? true cs).filter (·.length = 8)
  | some (before, after) => do
    let left ← readSide? false before
    let right ← readSide? true after
    if left.length + right.length < 8 then
      some (left ++ List.replicate (8 - left.length - right.length) 0 ++ right)
    else none

/-! ### Writing -/

/-- How many zeros the pieces start with. -/
def zeros (pieces : List Nat) : Nat := (pieces.takeWhile (· == 0)).length

/-- The length of the longest run of zeros. -/
def longestZeros : List Nat → Nat
  | [] => 0
  | piece :: rest => max (zeros (piece :: rest)) (longestZeros rest)

def writePieces (pieces : List Nat) : String :=
  ":".intercalate (pieces.map fun piece => String.ofList (Nat.toDigits 16 piece))

/-- Where the first run of `n` zeros begins. -/
def gapStart (n : Nat) : List Nat → Nat
  | [] => 0
  | piece :: rest => if n ≤ zeros (piece :: rest) then 0 else gapStart n rest + 1

/-- An address with its first longest run of zeros, if it has two or more, written as two colons. -/
def text (pieces : Address) : String :=
  let n := longestZeros pieces
  if n < 2 then writePieces pieces
  else
    let start := gapStart n pieces
    writePieces (pieces.take start) ++ "::" ++ writePieces (pieces.drop (start + n))

end ImageBatch.Ipv6
