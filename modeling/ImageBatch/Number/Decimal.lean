import ImageBatch.Number.Double

/-!
The shortest decimal of a double, and its layouts.

A decimal reads back as a double when it lies among the reals that round to it: from half-way to the lower
neighbour to half-way to the upper one, ends included when the significand is even. `Double.shortest` tries
one digit, two digits and so on; on each decimal grid only the two points beside the value can be the
nearest hit, so it tests those two. Both may be hits and equally near: a `TieRule` says which is taken.
A `Layout` has such a rule, and says where the point goes and when an exponent is written.
-/

namespace ImageBatch

/-- A positive decimal number: `digits`, the first of them not zero, with the point after the first digit,
times `10 ^ exponent`. -/
structure Decimal where
  digits : List Char
  exponent : Int
deriving DecidableEq, Repr

namespace Decimal

/-- The decimal digits of a natural number. -/
def digitsOf (n : Nat) : List Char := Nat.toDigits 10 n

/-- `n · 10 ^ grid`, with no zeros at the end of the digits. -/
def ofScaled (n : Nat) (grid : Int) : Decimal :=
  let digits := digitsOf n
  ⟨(digits.reverse.dropWhile (· == '0')).reverse, grid + (digits.length - 1 : Nat)⟩

end Decimal

/-- Which of two equally near decimals is taken. -/
inductive TieRule where
  /-- The larger one. -/
  | up
  /-- The one whose last digit is even. -/
  | even
deriving DecidableEq, Repr

/-- The choice between `below` and the next larger number. -/
def TieRule.choose : TieRule → (below : Nat) → Nat
  | .up, below => below + 1
  | .even, below => if below % 2 = 0 then below else below + 1

/-- The reals that round to a double, in quarter units of `2⁻¹⁰⁷⁴`. -/
structure RoundingInterval where
  low : Nat
  value : Nat
  high : Nat
  closed : Bool

namespace RoundingInterval

/-- Quarter units in one. -/
def perOne : Nat := 4 * Double.unitsPerOne

/-- The interval of a positive number of units. The step to the lower neighbour is half as wide where the
significand is the least of its exponent. -/
def ofUnits (units : Nat) : RoundingInterval :=
  let s := Nat.log2 units - 52
  let significand := units / Nat.pow 2 s
  let step := Nat.pow 2 s
  let below := if significand = Double.fullSignificand ∧ 0 < s then step else 2 * step
  ⟨4 * units - below, 4 * units, 4 * units + 2 * step, significand % 2 = 0⟩

/-- `n` steps of `num / den` quarter units lie in the interval. -/
def holds (i : RoundingInterval) (n num den : Nat) : Bool :=
  if i.closed then i.low * den ≤ n * num && n * num ≤ i.high * den
  else i.low * den < n * num && n * num < i.high * den

/-- The exponent of ten of the value's first digit. -/
def exponent (i : RoundingInterval) : Int :=
  if perOne ≤ i.value then ((Decimal.digitsOf (i.value / perOne)).length - 1 : Nat)
  else -((Decimal.digitsOf (perOne / i.value)).length : Int)

/-- The nearest hit among the value's two neighbours on the grid of multiples of `10 ^ grid`. -/
def onGrid? (i : RoundingInterval) (ties : TieRule) (grid : Int) : Option Nat :=
  let num := if 0 ≤ grid then Nat.pow 10 grid.toNat * perOne else perOne
  let den := if 0 ≤ grid then 1 else Nat.pow 10 (-grid).toNat
  let below := i.value * den / num
  let above := below + 1
  match i.holds below num den, i.holds above num den with
  | true, true =>
    let up := above * num - i.value * den
    let down := i.value * den - below * num
    if up < down then some above
    else if down < up then some below
    else some (ties.choose below)
  | true, false => some below
  | false, true => some above
  | false, false => none

/-- The first hit on grids of ever more digits; `tries` more grids are tried. -/
def search (i : RoundingInterval) (ties : TieRule) : (tries : Nat) → (grid : Int) → Decimal
  | 0, grid => .ofScaled ((i.onGrid? ties grid).getD 0) grid
  | tries + 1, grid =>
    match i.onGrid? ties grid with
    | some n => .ofScaled n grid
    | none => search i ties tries (grid - 1)

end RoundingInterval

namespace Double

/-- The decimal with the fewest digits that reads back as `units` units, and the nearest of those.
Seventeen digits always suffice. -/
def shortest (ties : TieRule) (units : Nat) : Decimal :=
  let i := RoundingInterval.ofUnits units
  i.search ties 17 i.exponent

/-- How a decimal is laid out. -/
structure Layout where
  /-- The exponents of ten written with a point alone. -/
  positional : Int → Bool
  /-- What follows the digits of a whole number. -/
  wholeEnding : List Char
  /-- What stands before the digits of a positive exponent. -/
  exponentSign : List Char
  /-- Which of two equally near decimals is written. -/
  ties : TieRule

/-- Always positional, whole numbers without a point. -/
def plain : Layout := ⟨fun _ => true, [], [], .up⟩

/-- Positional from `10⁻⁵` to below `10¹⁶`, whole numbers with `.0`, exponents with their sign. -/
def json : Layout := ⟨fun e => -5 ≤ e && e ≤ 15, ['.', '0'], ['+'], .even⟩

/-- A decimal in a layout. -/
def Layout.write (layout : Layout) (d : Decimal) : List Char :=
  if layout.positional d.exponent then
    if d.exponent < 0 then
      '0' :: '.' :: List.replicate (-d.exponent - 1).toNat '0' ++ d.digits
    else
      let whole := d.exponent.toNat + 1
      if d.digits.length ≤ whole then
        d.digits ++ List.replicate (whole - d.digits.length) '0' ++ layout.wholeEnding
      else d.digits.take whole ++ '.' :: d.digits.drop whole
  else
    let mantissa :=
      match d.digits with
      | first :: second :: rest => first :: '.' :: second :: rest
      | digits => digits
    let sign := if d.exponent < 0 then ['-'] else layout.exponentSign
    mantissa ++ 'e' :: sign ++ Decimal.digitsOf d.exponent.natAbs

/-- The shortest text of a double. -/
def format (layout : Layout) (x : Double) : String :=
  let signed (negative : Bool) (text : List Char) :=
    String.ofList (if negative then '-' :: text else text)
  match x.meaning with
  | .nan => "NaN"
  | .infinite negative => signed negative ['i', 'n', 'f']
  | .finite negative 0 => signed negative ('0' :: layout.wholeEnding)
  | .finite negative units => signed negative (layout.write (shortest layout.ties units))

end Double

end ImageBatch
