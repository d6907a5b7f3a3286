import Componentry.Decimal.Binary64

/-!
# The fewest digits that read back

For a positive finite double the decimals that round to it form an interval, closed iff the mantissa
is even. `shortest` looks for the coarsest decimal grid with a point in that interval, trying the
two neighbours of the value on each grid, and takes the nearer of two hits.
-/

namespace Componentry.Binary64

/-- The interval of reals that round to a double, around its value, over one denominator. -/
structure Interval where
  low : Nat
  value : Nat
  high : Nat
  den : Nat
  closed : Bool
deriving DecidableEq, Repr

/-- The rounding interval of `mantissa · 2 ^ exponent`. Below a power of two the next double is only
half as far. -/
def interval (mantissa : Nat) (exponent : Int) : Interval :=
  let narrow := mantissa = mantissaBound / 2 ∧ minExponent < exponent
  let below := if narrow then 1 else 2
  let closed := mantissa % 2 == 0
  let e := exponent - 2
  if 0 ≤ e then
    let s := Nat.pow 2 e.toNat
    ⟨(4 * mantissa - below) * s, 4 * mantissa * s, (4 * mantissa + 2) * s, 1, closed⟩
  else
    ⟨4 * mantissa - below, 4 * mantissa, 4 * mantissa + 2, Nat.pow 2 (-e).toNat, closed⟩

/-- Whether `digits · 10 ^ exponent` lies in the interval. -/
def Interval.holds (i : Interval) (digits : Nat) (exponent : Int) : Bool :=
  let (x, den) :=
    if 0 ≤ exponent then (digits * Nat.pow 10 exponent.toNat * i.den, 1)
    else (digits * i.den, Nat.pow 10 (-exponent).toNat)
  if i.closed then i.low * den ≤ x && x ≤ i.high * den
  else i.low * den < x && x < i.high * den

def digitCount (n : Nat) : Nat := (Nat.toDigits 10 n).length

def Interval.leading (i : Interval) : Int :=
  (digitCount (i.value * Nat.pow 10 400 / i.den) : Int) - 401

/-- The digits and the exponent of the grid point with `count` digits that reads back, if any: the
value's nearer neighbour, and the even one when both are equally near. -/
def Interval.onGrid (i : Interval) (count : Nat) : Option (Nat × Int) :=
  let e := i.leading - (count - 1 : Nat)
  let (num, den) :=
    if 0 ≤ e then (i.value, i.den * Nat.pow 10 e.toNat)
    else (i.value * Nat.pow 10 (-e).toNat, i.den)
  let lower := num / den
  let rest := num % den
  let lowerHits := i.holds lower e
  let upperHits := i.holds (lower + 1) e
  if lowerHits && upperHits then
    if 2 * rest < den || (2 * rest = den && lower % 2 = 0) then some (lower, e)
    else some (lower + 1, e)
  else if lowerHits then some (lower, e)
  else if upperHits then some (lower + 1, e)
  else none

/-- The first grid with a point that reads back, from `count` digits up. -/
def Interval.search (i : Interval) : Nat → Nat → Nat × Int
  | 0, _ => (0, 0)
  | tries + 1, count => (i.onGrid count).getD (i.search tries (count + 1))

/-- The digits of `n · 10 ^ e` without trailing zeros, and the power of ten of the leading digit. -/
def significant (decimal : Nat × Int) : List Char × Int :=
  let digits := Nat.toDigits 10 decimal.1
  let trimmed := (digits.reverse.dropWhile (· == '0')).reverse
  (trimmed, decimal.2 + (digits.length - 1 : Nat))

/-- The fewest significant digits that read back as `mantissa · 2 ^ exponent`, without trailing
zeros, and the power of ten of the leading digit. Seventeen digits always suffice. -/
def shortest (mantissa : Nat) (exponent : Int) : List Char × Int :=
  significant ((interval mantissa exponent).search 17 1)

end Componentry.Binary64
