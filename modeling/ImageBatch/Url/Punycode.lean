/-!
Punycode: any characters, written with small letters, digits and hyphens.

The ASCII characters come first, then a hyphen if there are any. Each other character follows as one number:
how many steps it lies after the one before, when all places and all code points are walked through in order.
Numbers are written with 36 digits, the lowest first; how high a digit ends a number follows from the sizes
of the numbers before it.
-/

namespace ImageBatch.Punycode

/-- Small letters, then decimal digits. -/
def digits : List Char := "abcdefghijklmnopqrstuvwxyz0123456789".toList

def digit (n : Nat) : Char := digits.getD n 'a'

/-- The value of a digit; capital letters count as small ones. -/
def digit? (c : Char) : Option Nat := digits.findIdx? (· == c.toLower)

/-- The value below which a digit is the last of its number, `place` digits after the first. -/
def threshold (bias place : Nat) : Nat := max 1 (min 26 (36 * (place + 1) - bias))

theorem threshold_pos (bias place : Nat) : 1 ≤ threshold bias place := by unfold threshold; omega

theorem threshold_le (bias place : Nat) : threshold bias place ≤ 26 := by unfold threshold; omega

/-- Divides by 35 until little is left, and counts 36 for each time. -/
def scaleDown (n : Nat) : Nat × Nat :=
  if 455 < n then
    let (rest, k) := scaleDown (n / 35)
    (rest, k + 36)
  else (n, 0)
termination_by n
decreasing_by omega

/-- The bias after a number, with `count` characters written so far. -/
def adapt (isFirst : Bool) (n count : Nat) : Nat :=
  let n := n / (if isFirst then 700 else 2)
  let (rest, k) := scaleDown (n + n / count)
  k + 36 * rest / (rest + 38)

/-! ### Writing -/

/-- The digits of a number from a place on. -/
def writeNumber (bias place n : Nat) : List Char :=
  let t := threshold bias place
  if n < t then [digit n]
  else digit (t + (n - t) % (36 - t)) :: writeNumber bias (place + 1) ((n - t) / (36 - t))
termination_by n
decreasing_by
  have low := threshold_pos bias place
  have := Nat.div_le_self (n - threshold bias place) (36 - threshold bias place)
  omega

/-- How far writing has come: the steps since the last character, the bias, how many characters are written,
and the digits, latest number first. -/
structure Progress where
  steps : Nat
  bias : Nat
  count : Nat
  written : List (List Char)

/-- Walks over one place of the text while looking for one code point. -/
def visit (basics code : Nat) (p : Progress) (c : Char) : Progress :=
  if c.toNat < code then { p with steps := p.steps + 1 }
  else if c.toNat = code then {
    steps := 0
    bias := adapt (p.count == basics) p.steps (p.count + 1)
    count := p.count + 1
    written := writeNumber p.bias 0 p.steps :: p.written }
  else p

/-- Writes the characters of each code point in turn; `next` is the first that has not been looked for. -/
def writeFrom (cs : List Char) (basics next : Nat) (p : Progress) : (codes : List Nat) → Progress
  | [] => p
  | code :: rest =>
    let skipped := { p with steps := p.steps + (code - next) * (p.count + 1) }
    let visited := cs.foldl (visit basics code) skipped
    writeFrom cs basics (code + 1) { visited with steps := visited.steps + 1 } rest

def isBasic (c : Char) : Bool := c.toNat < 0x80

/-- Writes any characters. -/
def encode (cs : List Char) : List Char :=
  let basics := cs.filter isBasic
  let codes := (((cs.filter (!isBasic ·)).map Char.toNat).mergeSort (· ≤ ·)).eraseDups
  let done := writeFrom cs basics.length 0x80 ⟨0, 72, basics.length, []⟩ codes
  basics ++ (if basics.isEmpty then [] else ['-']) ++ done.written.reverse.flatten

/-! ### Reading -/

/-- A number from a place on, and what follows it. -/
def readNumber (bias place weight : Nat) : (cs : List Char) → Option (Nat × { rest : List Char //
    rest.length < cs.length })
  | [] => none
  | c :: rest => do
    let d ← digit? c
    let t := threshold bias place
    if d < t then return (d * weight, ⟨rest, by simp⟩)
    else
      let (n, ⟨after, shorter⟩) ← readNumber bias (place + 1) (weight * (36 - t)) rest
      return (d * weight + n, ⟨after, by simp only [List.length_cons]; omega⟩)

/-- The character of a code point. -/
def char? (code : Nat) : Option Char := if h : code.isValidChar then some (Char.ofNatAux code h) else none

/-- Puts in the characters that numbers stand for. `place` and `code` say where the last one was put and which
it was; `shown` is the text so far. -/
def readFrom (bias code place : Nat) (isFirst : Bool) (shown : List Char) (cs : List Char) :
    Option (List Char) :=
  if cs.isEmpty then some shown
  else
    match readNumber bias 0 1 cs with
    | none => none
    | some (n, ⟨rest, _⟩) =>
      let count := shown.length + 1
      let code := code + (place + n) / count
      let place := (place + n) % count
      match char? code with
      | none => none
      | some c =>
        readFrom (adapt isFirst n count) code (place + 1) false (shown.insertIdx place c) rest
termination_by cs.length

/-- Reads what was written: the part before the last hyphen stands for itself, and there is no hyphen without
such a part. -/
def decode? (cs : List Char) : Option (List Char) :=
  let code := (cs.reverse.takeWhile (· != '-')).reverse
  let basics := cs.take (cs.length - code.length - 1)
  if (basics.isEmpty && code.length < cs.length) || !basics.all isBasic then none
  else readFrom 72 0x80 0 true basics code

end ImageBatch.Punycode
