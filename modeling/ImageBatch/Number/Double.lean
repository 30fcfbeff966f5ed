/-!
Floating-point numbers of 64 bits, with exact arithmetic under every rounding.

Every finite double is a whole multiple of `2⁻¹⁰⁷⁴`, the smallest positive one. `Double.units?` reads a
double as that multiple, an integer, so that comparison, rounding to whole numbers and conversion are
questions about integers. Each operation that may fall between two doubles computes the exact quotient and
rounds it once, to the nearest double and on a tie to the one with an even significand (`ofQuotient`).
-/

namespace ImageBatch

/-- A floating-point number of 64 bits, told apart by its bits. -/
structure Double where
  bits : UInt64
deriving DecidableEq, Repr

namespace Double

/-- How many units of `2⁻¹⁰⁷⁴` make one. -/
def unitsPerOne : Nat := Nat.pow 2 1074

/-- `2⁵²`: where significands begin that have all their bits. -/
def fullSignificand : Nat := 0x10000000000000

/-- `2⁶³`: what the bit of the sign weighs. -/
def signWeight : Nat := 0x8000000000000000

/-- What the bits stand for: a whole number of units with a sign of its own (there are two zeros), an
infinity, or nothing. -/
inductive Meaning where
  | finite (negative : Bool) (units : Nat)
  | infinite (negative : Bool)
  | nan
deriving DecidableEq, Repr

/-- The sign, the binary exponent field and the fraction field, read off the bits. -/
def meaning (x : Double) : Meaning :=
  let b := x.bits.toNat
  let negative := b / signWeight % 2 == 1
  let field := b / fullSignificand % 2048
  let fraction := b % fullSignificand
  if field = 2047 then
    if fraction = 0 then .infinite negative else .nan
  else if field = 0 then .finite negative fraction
  else .finite negative ((fullSignificand + fraction) * Nat.pow 2 (field - 1))

def nan : Double := ⟨0x7ff8000000000000⟩

/-- Zero or infinity plus a sign, from the magnitude's bits. -/
def withSign (negative : Bool) (magnitude : Nat) : Double :=
  ⟨UInt64.ofNat (if negative then signWeight + magnitude else magnitude)⟩

/-- The bits of positive infinity; every finite magnitude has smaller ones. -/
def infiniteBits : Nat := 2047 * fullSignificand

def infinite (negative : Bool) : Double := withSign negative infiniteBits

/-- The whole number nearest to `n / d`; of two equally near ones the even one. -/
def nearest (n d : Nat) : Nat :=
  let q := n / d
  let twice := 2 * (n % d)
  if twice < d then q
  else if d < twice then q + 1
  else if q % 2 = 0 then q else q + 1

/-- The double nearest to `± n / d` units.

Between `2⁵²⁺ˢ` and `2⁵³⁺ˢ` units neighbours are `2ˢ` units apart, so `n / d` is rounded to a multiple
`m` of `2ˢ`, and the bits are `s · 2⁵² + m`: a significand that rounds up to `2⁵³` carries into the
exponent field by itself. -/
def ofQuotient (negative : Bool) (n d : Nat) : Double :=
  let s := Nat.log2 (n / d) - 52
  let magnitude := s * fullSignificand + nearest n (d * Nat.pow 2 s)
  if magnitude < infiniteBits then withSign negative magnitude else infinite negative

/-- The double nearest to an integer. -/
def ofInt (n : Int) : Double :=
  ofQuotient (n < 0) (n.natAbs * unitsPerOne) 1

/-- The double nearest to `10ᵏ`. -/
def powerOfTen (k : Nat) : Double := ofQuotient false (Nat.pow 10 k * unitsPerOne) 1

def zero (negative : Bool) : Double := withSign negative 0

def isNaN (x : Double) : Bool := x.meaning == .nan

def isFinite (x : Double) : Bool :=
  match x.meaning with
  | .finite .. => true
  | _ => false

def isNegative (x : Double) : Bool := signWeight ≤ x.bits.toNat

/-- The value of a finite double in units of `2⁻¹⁰⁷⁴`. -/
def units? (x : Double) : Option Int :=
  match x.meaning with
  | .finite true u => some (-(u : Int))
  | .finite false u => some u
  | _ => none

/-! ### Comparison -/

/-- Place on the number line, with the infinities beyond every finite value; a NaN has none. -/
def rank? (x : Double) : Option (Int × Int) :=
  match x.meaning with
  | .finite true u => some (0, -(u : Int))
  | .finite false u => some (0, u)
  | .infinite true => some (-1, 0)
  | .infinite false => some (1, 0)
  | .nan => none

/-- Strictly smaller as a number; a NaN is neither smaller nor larger than anything. -/
def less (x y : Double) : Bool :=
  match x.rank?, y.rank? with
  | some (a, u), some (b, v) => a < b || (a == b && u < v)
  | _, _ => false

/-- Equal as numbers: the two zeros are equal, a NaN equals nothing. -/
def same (x y : Double) : Bool :=
  match x.rank?, y.rank? with
  | some a, some b => a == b
  | _, _ => false

/-- The larger of two doubles; a NaN gives way to the other, and of equal numbers, such as the two zeros,
the second is taken. -/
def max (x y : Double) : Double :=
  if x.isNaN then y else if y.isNaN || y.less x then x else y

/-- The smaller of two doubles, in the same way. -/
def min (x y : Double) : Double :=
  if x.isNaN then y else if y.isNaN || x.less y then x else y

/-! ### Whole numbers -/

/-- Has no fractional part. -/
def isWhole (x : Double) : Bool :=
  match x.meaning with
  | .finite _ u => u % unitsPerOne = 0
  | _ => false

/-- The least integer not below a finite double. -/
def ceil? (x : Double) : Option Int :=
  x.units?.map fun u => -((-u) / (unitsPerOne : Int))

/-- The greatest integer not above a finite double. -/
def floor? (x : Double) : Option Int :=
  x.units?.map fun u => u / (unitsPerOne : Int)

/-- The nearest of the integers from `lo` to `hi`. -/
def clamp (lo hi n : Int) : Int := if n < lo then lo else if hi < n then hi else n

/-- Rounds with `round` and stays between `lo` and `hi`; a NaN becomes zero. -/
def saturate (lo hi : Int) (round : Double → Option Int) (x : Double) : Int :=
  match round x with
  | some n => clamp lo hi n
  | none =>
    match x.meaning with
    | .infinite true => lo
    | .infinite false => hi
    | _ => 0

/-- The integer part of a finite double. -/
def truncate? (x : Double) : Option Int :=
  x.units?.map fun u => Int.tdiv u (unitsPerOne : Int)

def int64Min : Int := -0x8000000000000000
def int64Max : Int := 0x7fffffffffffffff
def nat64Max : Int := 0xffffffffffffffff

/-- The integer part, kept within 64 bits with a sign. -/
def toInt64 (x : Double) : Int := x.saturate int64Min int64Max truncate?

/-- The least integer not below, kept within 64 bits with a sign. -/
def ceilInt64 (x : Double) : Int := x.saturate int64Min int64Max ceil?

/-- The greatest integer not above, kept within 64 bits with a sign. -/
def floorInt64 (x : Double) : Int := x.saturate int64Min int64Max floor?

/-- The integer part, kept within 64 bits without a sign. -/
def toNat64 (x : Double) : Nat := (x.saturate 0 nat64Max truncate?).toNat

/-! ### Arithmetic -/

/-- The product, rounded once. -/
def mul (x y : Double) : Double :=
  match x.meaning, y.meaning with
  | .finite a u, .finite b v => ofQuotient (a != b) (u * v) unitsPerOne
  | .infinite a, .infinite b => infinite (a != b)
  | .finite a u, .infinite b | .infinite b, .finite a u =>
    if u = 0 then nan else infinite (a != b)
  | _, _ => nan

/-- The quotient, rounded once. -/
def div (x y : Double) : Double :=
  match x.meaning, y.meaning with
  | .finite a u, .finite b v =>
    if v = 0 then if u = 0 then nan else infinite (a != b)
    else ofQuotient (a != b) (u * unitsPerOne) v
  | .infinite a, .finite b _ => infinite (a != b)
  | .finite a _, .infinite b => zero (a != b)
  | _, _ => nan

/-- The same magnitude with the other sign. -/
def neg (x : Double) : Double :=
  withSign (!x.isNegative) (x.bits.toNat % signWeight)

end Double

end ImageBatch
