/-!
# Binary floating point with 53 significant bits

A `Binary64` is a number of the IEEE double format in exact form: a finite value is `± mantissa · 2
^ exponent`. Every number here comes from a decimal text, so the one operation needed is rounding an
exact ratio to the nearest representable value; a tie goes to the even mantissa. All arithmetic is
on natural numbers and integers.
-/

namespace Componentry

/-- A double: finite with its exact parts, an infinity, or not a number. -/
inductive Binary64 where
  | finite (negative : Bool) (mantissa : Nat) (exponent : Int)
  | infinite (negative : Bool)
  | nan
deriving DecidableEq, Repr

namespace Binary64

/-- The least exponent; subnormal numbers and zero have it. -/
def minExponent : Int := -1074

def maxExponent : Int := 971

def mantissaBound : Nat := Nat.pow 2 53

def zero (negative : Bool) : Binary64 := .finite negative 0 minExponent

/-- The quotient rounded to the nearest natural number, a half to the even neighbour. -/
def roundDiv (num den : Nat) : Nat :=
  let q := num / den
  let r := num % den
  if 2 * r < den then q
  else if den < 2 * r then q + 1
  else if q % 2 = 0 then q else q + 1

/-- The ratio `num / (den · 2 ^ exponent)` as a numerator and a denominator. -/
def scale (num den : Nat) (exponent : Int) : Nat × Nat :=
  if 0 ≤ exponent then (num, den * Nat.pow 2 exponent.toNat)
  else (num * Nat.pow 2 (-exponent).toNat, den)

/-- The exponent at which `num / den` has a mantissa of full width, or the least exponent. -/
def exponentOf (num den : Nat) : Int :=
  let guess : Int := (Nat.log2 num : Int) - (Nat.log2 den : Int) - 53
  let (n, d) := scale num den guess
  let fitted := if mantissaBound ≤ n / d then guess + 1 else guess
  max fitted minExponent

/-- The double nearest to `num / den`. -/
def ofRatio (negative : Bool) (num den : Nat) : Binary64 :=
  if num = 0 then zero negative
  else
    let e := exponentOf num den
    let (n, d) := scale num den e
    let m := roundDiv n d
    -- Rounding up may reach the next power of two.
    let (m, e) := if m = mantissaBound then (mantissaBound / 2, e + 1) else (m, e)
    if maxExponent < e then .infinite negative else .finite negative m e

def natOfDigits (cs : List Char) : Nat :=
  cs.foldl (fun n c => n * 10 + (c.toNat - '0'.toNat)) 0

/-- The double nearest to `0.digits · 10 ^ point`, where `digits` are decimal digits. Far out of
range the answer is an infinity or zero without forming the power of ten. -/
def ofDigits (negative : Bool) (digits : List Char) (point : Int) : Binary64 :=
  let significant := digits.dropWhile (· == '0')
  let point := point - (digits.length - significant.length : Nat)
  if significant.isEmpty then zero negative
  else if 310 < point then .infinite negative
  else if point < -330 then zero negative
  else
    let e := point - significant.length
    let n := natOfDigits significant
    if 0 ≤ e then ofRatio negative (n * Nat.pow 10 e.toNat) 1
    else ofRatio negative n (Nat.pow 10 (-e).toNat)

/-- The double nearest to the decimal `whole.fraction · 10 ^ exponent`. -/
def ofDecimal (negative : Bool) (whole fraction : List Char) (exponent : Int) : Binary64 :=
  ofDigits negative (whole ++ fraction) (whole.length + exponent)

end Binary64

end Componentry
