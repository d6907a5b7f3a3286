import Componentry.Decimal.Binary64

/-!
# Quantities

What numbers of different kinds are compared by. The exact value of a finite double is a multiple of
the least positive one, and so is every whole number.
-/

namespace Componentry

/-- The exact value of a number. -/
inductive Quantity where
  /-- A multiple of the least positive double. -/
  | finite (multiple : Int)
  | infinite (negative : Bool)
deriving DecidableEq, Repr

namespace Quantity

def ofInt (n : Int) : Quantity := .finite (n * Int.pow 2 (-Binary64.minExponent).toNat)

/-- The value of a truth value, which counts as one or zero. -/
def ofBool (b : Bool) : Quantity := ofInt (if b then 1 else 0)

/-- The value of a double, if it is a number. Both zeros have the same. -/
def ofBinary64? : Binary64 → Option Quantity
  | .finite negative mantissa exponent =>
    let multiple : Int := mantissa * Int.pow 2 (exponent - Binary64.minExponent).toNat
    some (.finite (if negative then -multiple else multiple))
  | .infinite negative => some (.infinite negative)
  | .nan => none

end Quantity

end Componentry
