import ImageBatch.Number.Natural
import ImageBatch.Text.Normal
import ImageBatch.Text.Unicode.Direction
import ImageBatch.Text.Unicode.Display
import ImageBatch.Text.Unicode.Joining
import ImageBatch.Text.Unicode.Replacement
import ImageBatch.Url.Punycode

/-!
Names of hosts.

A name is given in any characters and is asked for in ASCII. Forms of one letter are replaced by the letter
and the text is put into its normal form; then each label, the part between two points, is written in
Punycode after `xn--` where it has other characters than ASCII. A label that comes in Punycode is read first,
and has to keep the same rules: no mark at its start, joiners only where they change how letters join, and
letters of the two directions not mixed.
-/

namespace ImageBatch.HostName

open Unicode Text

/-! ### Replacements -/

/-- What the items of a line replace, from the character `next` on. -/
def readItems (next : Nat) : (items : List (List Char)) → List (Char × List Char)
  | [] => []
  | ('@' :: place) :: items => readItems (readHex 0 place) items
  | item :: items =>
    let count (sign : Char) : Nat := (Natural.readDigits 0 ((item.dropWhile (· != sign)).drop 1)).getD 0
    if item.contains '+' then
      let start := readHex 0 (item.takeWhile (· != '+'))
      (List.range (count '+')).map (fun i => (Char.ofNat (next + i), [Char.ofNat (start + i)])) ++
        readItems (next + count '+') items
    else if item.contains '=' then
      let all := Char.ofNat (readHex 0 (item.takeWhile (· != '=')))
      (List.range (count '=')).map (fun i => (Char.ofNat (next + i), [all])) ++
        readItems (next + count '=') items
    else
      (Char.ofNat next, (splitOn (· == '.') item).map fun code => Char.ofNat (readHex 0 code)) ::
        readItems (next + 1) items

/-- The characters that are replaced by others than their lower case, and by what. -/
def replacements : List (Char × List Char) :=
  replacementLines.flatMap fun line => readItems 0 (pieces ' ' line)

/-- The joiners: the first keeps letters apart, the second joins them. -/
def nonJoiner : Char := '\u200c'
def joiner : Char := '\u200d'

/-- What becomes of a character; none if it may not stand in a name. -/
def replaced? (c : Char) : Option (List Char) :=
  if c.toNat < 0x80 then some [c.toLower]
  else
    match replacements.find? (·.1 == c) with
    | some (_, cs) => some cs
    | none =>
      if lowerChar c != c then some [lowerChar c]
      else if inRanges vanishingRanges c.toNat then some []
      else if c == nonJoiner || c == joiner then some [c]
      else if inRanges unprintableRanges c.toNat || inRanges refusedRanges c.toNat then none
      else some [c]

/-- A character that stays as it is. -/
def isKept (c : Char) : Bool := replaced? c == some [c]

/-! ### Labels -/

def isMark (c : Char) : Bool := inRanges markRanges c.toNat

/-- A mark that takes up no room of its own. -/
def isNonspacing (c : Char) : Bool := isMark c && !inRanges spacingMarkRanges c.toNat

/-- Letters join across it. -/
def isTransparent (c : Char) : Bool := isNonspacing c || c.toNat == 0x1e94b

/-- Takes away the vowel of the letter before it. -/
def isVirama (c : Char) : Bool := combiningClass c == 9

/-- Joins the letter after it. -/
def joinsNext (c : Char) : Bool := inRanges bothJoiningRanges c.toNat || inRanges leftJoiningRanges c.toNat

/-- Joins the letter before it. -/
def joinsPrevious (c : Char) : Bool :=
  inRanges bothJoiningRanges c.toNat || inRanges rightJoiningRanges c.toNat

/-- Every joiner stands where it changes something; `before` holds the characters so far, latest first. -/
def joinersFit (before : List Char) : List Char → Bool
  | [] => true
  | c :: rest =>
    let afterVirama := before.head?.any isVirama
    let between := (before.dropWhile isTransparent).head?.any joinsNext &&
      (rest.dropWhile isTransparent).head?.any joinsPrevious
    let fits :=
      if c == joiner then afterVirama
      else if c == nonJoiner then afterVirama || between
      else true
    fits && joinersFit (c :: before) rest

/-- The direction of a character, as far as labels need it. -/
inductive Direction where
  | leftToRight
  | rightToLeft
  | europeanNumber
  | arabicNumber
  | neutral
  | mark
deriving DecidableEq, Repr

def direction (c : Char) : Direction :=
  let n := c.toNat
  if isNonspacing c then .mark
  else if inRanges rightToLeftRanges n then .rightToLeft
  else if inRanges europeanNumberRanges n then .europeanNumber
  else if inRanges arabicNumberRanges n then .arabicNumber
  else if inRanges neutralRanges n then .neutral
  else .leftToRight

/-- A label in a name with characters written from right to left has one direction. -/
def hasOneDirection (label : List Char) : Bool :=
  let ds := label.map direction
  match ds.head?, (ds.reverse.dropWhile (· == .mark)).head? with
  | some .leftToRight, some last =>
    (last == .leftToRight || last == .europeanNumber) &&
      ds.all fun d => d != .rightToLeft && d != .arabicNumber
  | some .rightToLeft, some last =>
    (last == .rightToLeft || last == .europeanNumber || last == .arabicNumber) &&
      !ds.contains .leftToRight && !(ds.contains .europeanNumber && ds.contains .arabicNumber)
  | none, _ => true
  | _, _ => false

/-- Written from right to left, at least in part. -/
def isRightToLeft (label : List Char) : Bool :=
  label.any fun c => direction c == .rightToLeft || direction c == .arabicNumber

def punycodeStart : List Char := "xn--".toList

def isAscii (label : List Char) : Bool := label.all Punycode.isBasic

/-- A label as it is read. What comes in Punycode must need it and be in its normal form. -/
def shown? (label : List Char) : Option (List Char) :=
  if punycodeStart.isPrefixOf label then do
    let shown ← Punycode.decode? (label.drop punycodeStart.length)
    if isAscii shown || !shown.all isKept || composed shown != shown then none
    else some shown
  else some label

/-- A label as it is asked for. -/
def written (shown : List Char) : List Char :=
  if isAscii shown then shown else punycodeStart ++ Punycode.encode shown

/-- A character that may not stand in a name, though it is ASCII. -/
def isForbidden (c : Char) : Bool :=
  c.toNat ≤ 0x20 || c.toNat = 0x7f ||
    ['%', '#', '/', ':', '<', '>', '?', '@', '[', '\\', ']', '^', '|'].contains c

/-- The rules of a label by itself. -/
def isFit (shown : List Char) : Bool :=
  !shown.head?.any isMark && joinersFit [] shown && !shown.any isForbidden

/-- The name as it is asked for, if it keeps the rules. -/
def toAscii? (name : String) : Option String := do
  let replacedChars ← name.toList.mapM replaced?
  let labels := splitOn (· == '.') (composed replacedChars.flatten)
  let shown ← labels.mapM shown?
  if !shown.all isFit then none
  else if shown.any isRightToLeft && !shown.all hasOneDirection then none
  else some (".".intercalate (shown.map fun label => String.ofList (written label)))

end ImageBatch.HostName
