import ImageBatch.Json.Basic
import ImageBatch.Number.Natural

/-!
The value of a JSON number.

Whole numbers that fit 64 bits are integers, except minus zero. Any other number is a double: its digits are
taken into a significand while that fits 64 bits, whole digits that no longer fit count as powers of ten and
later fraction digits not at all, and the significand is scaled once by a power of ten. Scaling by more than
`10⁻³⁰⁸` goes in steps. A number too large for a double has no value.
-/

namespace ImageBatch.Json

/-- A number as it is written: digits before the point, after it, and the exponent with its sign. -/
structure Numeral where
  negative : Bool
  whole : List Nat
  fraction : Option (List Nat)
  exponent : Option (Bool × List Nat)
deriving DecidableEq, Repr

namespace Numeral

/-- Digits taken into a significand of 64 bits from the left: the significand, how many were taken, and how
many were left over. -/
def takeDigits (significand taken : Nat) : List Nat → Nat × Nat × Nat
  | [] => (significand, taken, 0)
  | d :: rest =>
    let next := significand * 10 + d
    if next ≤ Natural.max64 then takeDigits next (taken + 1) rest
    else (significand, taken, (d :: rest).length)

/-- An exponent's digits, unless their number exceeds 32 bits with a sign. -/
def exponentValue? (digits : List Nat) : Option Nat :=
  let e := digits.foldl (fun acc d => acc * 10 + d) 0
  if e ≤ 0x7fffffff then some e else none

/-- `x · 10 ^ exponent`. While the exponent is below -308 the number is divided by `10³⁰⁸`; after three such
divisions nothing is left of any significand. -/
def scale (x : Double) (exponent : Int) : (steps : Nat) → Option Double
  | 0 => some (Double.zero false)
  | steps + 1 =>
    if exponent.natAbs ≤ 308 then
      if 0 ≤ exponent then
        let y := x.mul (Double.powerOfTen exponent.toNat)
        if y.isFinite then some y else none
      else some (x.div (Double.powerOfTen exponent.natAbs))
    else if x.same (Double.zero false) then some x
    else if 0 ≤ exponent then none
    else scale (x.div (Double.powerOfTen 308)) (exponent + 308) steps

/-- `± significand · 10 ^ exponent` as a double. -/
def toDouble? (negative : Bool) (significand : Nat) (exponent : Int) : Option Double :=
  (scale (Double.ofInt significand) exponent 4).map fun x => if negative then x.neg else x

/-- The value as a double, given the significand of the whole digits and how many of them were left over. -/
def fractional? (n : Numeral) (significand leftOver : Nat) : Option Json :=
  let (significand, taken, _) := takeDigits significand 0 (n.fraction.getD [])
  let shift : Int := leftOver - taken
  match n.exponent with
  | none => (toDouble? n.negative significand shift).map .float
  | some (down, digits) =>
    match exponentValue? digits with
    | some e => (toDouble? n.negative significand (if down then shift - e else shift + e)).map .float
    | none => if significand ≠ 0 ∧ ¬down then none else some (.float (Double.zero n.negative))

/-- The value of a number: an integer or a double, or nothing if it is too large. -/
def value? (n : Numeral) : Option Json :=
  let (significand, _, leftOver) := takeDigits 0 0 n.whole
  if n.fraction.isNone ∧ n.exponent.isNone ∧ leftOver = 0 then
    if ¬n.negative then some (.integer significand)
    else if 0 < significand ∧ significand ≤ 0x8000000000000000 then some (.integer (-significand))
    else some (.float (Double.ofInt significand).neg)
  else n.fractional? significand leftOver

end Numeral

end ImageBatch.Json
