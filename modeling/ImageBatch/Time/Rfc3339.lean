import ImageBatch.Number.Natural
import ImageBatch.Text.Blank
import ImageBatch.Time.Basic
import ImageBatch.Time.Calendar

/-!
Moments in the form of RFC 3339.

Writing uses the shortest of no, three, six or nine fraction digits, and a sign before years of other than
four digits. Reading is more generous: spaces may stand between the parts, a space or a small `t` between
date and time, numbers may have fewer digits, an offset may lack its colon and `UTC` may stand for it.
-/

namespace ImageBatch.Timestamp

/-! ### Writing -/

/-- The digits of a number, with zeros in front up to a width. -/
def padLeft (width n : Nat) : List Char :=
  let digits := Nat.toDigits 10 n
  List.replicate (width - digits.length) '0' ++ digits

/-- A year: four digits, or a sign and at least four. -/
def yearChars (year : Int) : List Char :=
  if 0 ≤ year ∧ year ≤ 9999 then padLeft 4 year.toNat
  else (if year < 0 then '-' else '+') :: padLeft 4 year.natAbs

/-- The fraction of a second, as long as it has to be. -/
def fractionChars (nanos : Nat) : List Char :=
  if nanos = 0 then []
  else if nanos % 1000000 = 0 then '.' :: padLeft 3 (nanos / 1000000)
  else if nanos % 1000 = 0 then '.' :: padLeft 6 (nanos / 1000)
  else '.' :: padLeft 9 nanos

/-- Date and time without an offset. -/
def localChars (t : Timestamp) : List Char :=
  let date := Date.ofDays (t.seconds / 86400)
  let second := (t.seconds % 86400).toNat
  let leap := t.nanos / 1000000000
  yearChars date.year ++ '-' :: padLeft 2 date.month ++ '-' :: padLeft 2 date.day ++
    'T' :: padLeft 2 (second / 3600) ++ ':' :: padLeft 2 (second / 60 % 60) ++
    ':' :: padLeft 2 (second % 60 + leap) ++ fractionChars (t.nanos % 1000000000)

/-- With `Z` for UTC, as in documents. -/
def toText (t : Timestamp) : String := String.ofList (t.localChars ++ ['Z'])

/-- With a numeric offset, as in messages. -/
def toOffsetText (t : Timestamp) : String := String.ofList (t.localChars ++ "+00:00".toList)

/-! ### Reading -/

/-- A value and the characters after it. -/
abbrev Step (α : Type) := Option (α × List Char)

/-- Up to `most` digits, at least one, of a number below 2⁶³. -/
def takeNumber (most : Nat) (cs : List Char) : Step Nat :=
  let digits := (cs.take most).takeWhile fun c => (Natural.digit? c).isSome
  if digits.isEmpty then none
  else
    ((Natural.readDigits 0 digits).filter (· ≤ 0x7fffffffffffffff)).map fun n =>
      (n, cs.drop digits.length)

/-- A number of up to two digits from `lo` to `hi`, after blanks. -/
def takeField (lo hi : Nat) (cs : List Char) : Step Nat :=
  (takeNumber 2 (Text.trimStart cs)).filter fun (n, _) => lo ≤ n && n ≤ hi

/-- A year after blanks: four digits at most, or more after a sign. -/
def takeYear (cs : List Char) : Step Int :=
  match Text.trimStart cs with
  | '-' :: rest => (takeNumber rest.length rest).map fun (n, rest) => (-(n : Int), rest)
  | '+' :: rest => (takeNumber rest.length rest).map fun (n, rest) => ((n : Int), rest)
  | rest => (takeNumber 4 rest).map fun (n, rest) => ((n : Int), rest)

/-- A mark after blanks. -/
def takeMark (mark : Char) (cs : List Char) : Option (List Char) :=
  match Text.trimStart cs with
  | c :: rest => if c = mark then some rest else none
  | [] => none

/-- A point and the digits of a fraction, as nanoseconds; digits after the ninth are dropped. -/
def takeFraction : List Char → Step Nat
  | '.' :: rest =>
    (takeNumber 9 rest).map fun (n, after) =>
      let taken := rest.length - after.length
      (n * Nat.pow 10 (9 - taken), after.dropWhile fun c => (Natural.digit? c).isSome)
  | rest => some (0, rest)

/-- Two digits as a number. -/
def takeTwo : List Char → Step Nat
  | a :: b :: rest =>
    match Natural.digit? a, Natural.digit? b with
    | some a, some b => some (a * 10 + b, rest)
    | _, _ => none
  | _ => none

/-- An offset in seconds after its sign: hours, then minutes after colons or blanks. -/
def takeHoursMinutes (cs : List Char) : Option (Nat × List Char) := do
  let (hours, rest) ← takeTwo cs
  let (minutes, rest) ← takeTwo (rest.dropWhile fun c => c = ':' || Text.isBlank c)
  if minutes < 60 then some (hours * 3600 + minutes * 60, rest) else none

/-- An offset from UTC in seconds: a `Z`, the word `UTC`, or a sign, hours and minutes. -/
def takeOffset (cs : List Char) : Step Int :=
  if (cs.take 3).map Char.toUpper = ['U', 'T', 'C'] then some (0, cs.drop 3)
  else
    match cs with
    | [] => none
    | c :: rest =>
      if c = 'Z' ∨ c = 'z' then some (0, rest)
      else if c = '+' then (takeHoursMinutes rest).map fun (s, rest) => ((s : Int), rest)
      else if c = '-' ∨ c = '\u2212' then (takeHoursMinutes rest).map fun (s, rest) => (-(s : Int), rest)
      else none

/-- The years that the calendar has. -/
def isYear (year : Int) : Bool := -262143 ≤ year && year ≤ 262142

/-- Reads a moment. The sixtieth second of a minute is a leap second. -/
def ofText? (text : String) : Option Timestamp := do
  let (year, rest) ← takeYear text.toList
  let rest ← takeMark '-' rest
  let (month, rest) ← takeField 1 12 rest
  let rest ← takeMark '-' rest
  let (day, rest) ← takeField 1 31 rest
  let rest ←
    match rest with
    | c :: rest => if c = 'T' ∨ c = 't' ∨ c = ' ' then some rest else none
    | [] => none
  let (hour, rest) ← takeField 0 23 rest
  let rest ← takeMark ':' rest
  let (minute, rest) ← takeField 0 59 rest
  let rest ← takeMark ':' rest
  let (second, rest) ← takeField 0 60 rest
  let (nanos, rest) ← takeFraction rest
  let (offset, rest) ← takeOffset (Text.trimStart rest)
  let date : Date := ⟨year, month, day⟩
  let leap := second / 60
  let moment : Timestamp :=
    ⟨date.toDays * 86400 + hour * 3600 + minute * 60 + (second - leap : Nat) - offset,
      nanos + leap * 1000000000⟩
  if (Text.trimStart rest).isEmpty ∧ isYear year ∧ date.isValid ∧ offset.natAbs < 86400 ∧ moment.inRange
  then some moment
  else none

end ImageBatch.Timestamp
