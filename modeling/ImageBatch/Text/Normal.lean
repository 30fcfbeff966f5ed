import ImageBatch.Text.Hex
import ImageBatch.Text.Lowercase
import ImageBatch.Text.Split
import ImageBatch.Text.Unicode.Composition
import ImageBatch.Text.Unicode.Mark

/-!
The composed normal form of Unicode: texts that mean the same are written with the same characters.

Letters with marks are taken apart, the marks on one letter are put into the order of their classes, and what
has a single character of its own is put together again. Korean syllables are taken apart and put together by
arithmetic.
-/

namespace ImageBatch.Text

open Unicode

/-- The number that hexadecimal digits write after `value`; anything else counts as nothing. -/
def readHex (value : Nat) (cs : List Char) : Nat :=
  cs.foldl (fun n c => n * 16 + (Hex.digit? c).getD 0) value

/-- The pieces of a line between separators, each with a sign that ends it. -/
def pieces (separator : Char) (line : String) : List (List Char) := splitOn (· == separator) line.toList

/-- Two characters and the single one that stands for both. -/
structure Composition where
  first : Char
  second : Char
  whole : Char
deriving DecidableEq, Repr

namespace Composition

/-- The compositions of one first character: its partners, each followed by the whole. -/
def ofNumbers (first : Nat) : List Nat → List Composition
  | second :: whole :: rest => ⟨Char.ofNat first, Char.ofNat second, Char.ofNat whole⟩ :: ofNumbers first rest
  | _ => []

/-- The compositions of an item of the table. -/
def ofItem (item : List Char) : List Composition :=
  match ((splitOn (· == ' ') item).filter (!·.isEmpty)).map (readHex 0) with
  | first :: rest => ofNumbers first rest
  | [] => []

/-- All of them but the Korean syllables. -/
def all : List Composition := compositionLines.flatMap fun line => (pieces ',' line).flatMap ofItem

end Composition

/-! ### Korean syllables -/

namespace Syllable

def leadBase : Nat := 0x1100
def vowelBase : Nat := 0x1161

/-- One before the first tail: a syllable may have none. -/
def tailBase : Nat := 0x11a7

def base : Nat := 0xac00
def vowels : Nat := 21
def tails : Nat := 28
def count : Nat := 19 * vowels * tails

/-- The letters of a syllable. -/
def parts? (c : Char) : Option (List Char) :=
  let n := c.toNat
  if base ≤ n && n < base + count then
    let index := n - base
    let syllable := [Char.ofNat (leadBase + index / (vowels * tails)),
      Char.ofNat (vowelBase + index % (vowels * tails) / tails)]
    some (if index % tails = 0 then syllable else syllable ++ [Char.ofNat (tailBase + index % tails)])
  else none

/-- The syllable of two letters, or of a syllable without a tail and a tail. -/
def ofPair? (a b : Char) : Option Char :=
  let m := a.toNat
  let n := b.toNat
  if leadBase ≤ m && m < leadBase + 19 && vowelBase ≤ n && n < vowelBase + vowels then
    some (Char.ofNat (base + ((m - leadBase) * vowels + (n - vowelBase)) * tails))
  else if base ≤ m && m < base + count && (m - base) % tails == 0 && tailBase < n && n < tailBase + tails then
    some (Char.ofNat (m + (n - tailBase)))
  else none

end Syllable

/-! ### The normal form -/

/-- The class of a character among the marks on one letter; zero if it is none of them. -/
def combiningClass (c : Char) : Nat :=
  match combiningClasses.find? fun (first, last, _) => first ≤ c.toNat && c.toNat ≤ last with
  | some (_, _, k) => k
  | none => 0

/-- A character taken apart; each step takes off the last mark, and no character has more than `steps`. -/
def takeApart : (steps : Nat) → Char → List Char
  | 0, c => [c]
  | steps + 1, c =>
    match Syllable.parts? c with
    | some parts => parts
    | none =>
      match Composition.all.find? (·.whole == c) with
      | some composition => takeApart steps composition.first ++ [composition.second]
      | none => [c]

/-- Puts a character before text in order: past the marks of lower classes, if it is a mark. -/
def putInOrder (c : Char) : List Char → List Char
  | [] => [c]
  | d :: rest =>
    if combiningClass d != 0 && combiningClass d < combiningClass c then d :: putInOrder c rest
    else c :: d :: rest

/-- The single character for two. -/
def together? (a b : Char) : Option Char :=
  match Syllable.ofPair? a b with
  | some syllable => some syllable
  | none => (Composition.all.find? fun x => x.first == a && x.second == b).map (·.whole)

/-- Puts together what can be: `letter` is the last character of class zero, `passed` holds the marks after it
that did not join it, latest first. A mark of the same class, or of a higher one, that did not join stands in
the way of those after it. -/
def joinFrom (letter : Char) (passed : List Char) : List Char → List Char
  | [] => letter :: passed.reverse
  | c :: rest =>
    let free :=
      match passed with
      | [] => true
      | last :: _ => combiningClass last < combiningClass c
    match if free then together? letter c else none with
    | some whole => joinFrom whole passed rest
    | none =>
      if combiningClass c = 0 then letter :: passed.reverse ++ joinFrom c [] rest
      else joinFrom letter (c :: passed) rest

/-- Puts together what can be, from the first character of class zero on. -/
def joinTogether : List Char → List Char
  | [] => []
  | c :: rest => if combiningClass c = 0 then joinFrom c [] rest else c :: joinTogether rest

/-- The composed normal form. -/
def composed (cs : List Char) : List Char :=
  joinTogether ((cs.flatMap (takeApart 4)).foldr putInOrder [])

end ImageBatch.Text
