import ImageBatch.Text.Unicode.Case

/-!
Lower case for whole texts.

Each character is replaced by its lower-case partner. Two replacements are special: `İ` becomes `i` and a
dot above, and a capital sigma that ends a word becomes `ς` instead of `σ`. It ends a word when a letter
with case stands before it and none after it, marks and modifiers in between not counted.
-/

namespace ImageBatch.Text

open Unicode

/-- `n` lies in one of the ranges. -/
def inRanges (ranges : List (Nat × Nat)) (n : Nat) : Bool :=
  ranges.any fun r => r.1 ≤ n && n ≤ r.2

def isCased (c : Char) : Bool := inRanges casedRanges c.toNat

def isCaseIgnorable (c : Char) : Bool := inRanges caseIgnorableRanges c.toNat

/-- The lower-case partner of a character, or the character itself. -/
def lowerChar (c : Char) : Char :=
  let n := c.toNat
  match lowercaseRuns.find? fun (first, last, step, _) =>
      first ≤ n && n ≤ last && (n - first) % step == 0 with
  | some (_, _, _, distance) => Char.ofNat (Int.toNat (n + distance))
  | none => c

/-- The first character that is not passed over is a letter with case. -/
def leadsToCased (cs : List Char) : Bool :=
  match cs.dropWhile isCaseIgnorable with
  | c :: _ => isCased c
  | [] => false

/-- Lower case of the characters after `before`, which is kept in reverse. -/
def lowerAfter (before : List Char) : List Char → List Char
  | [] => []
  | c :: rest =>
    let lowered :=
      if c = 'İ' then ['i', '\u0307']
      else if c = 'Σ' then
        if leadsToCased before && !leadsToCased rest then ['ς'] else ['σ']
      else [lowerChar c]
    lowered ++ lowerAfter (c :: before) rest

def lowercase (s : String) : String := String.ofList (lowerAfter [] s.toList)

/-- Lower case for the letters `A` to `Z` alone. -/
def lowercaseAscii (s : String) : String := String.ofList (s.toList.map Char.toLower)

end ImageBatch.Text
