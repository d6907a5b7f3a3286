/-!
# Sets of characters given by ranges

A property of characters beyond ASCII is a sorted list of inclusive ranges of code points. Such a
list is written by what lies between its ranges: how many code points are left out, how many follow
that have the property, and so on in turn.
-/

namespace Componentry.Text

/-- The ranges from a code point on, given by the lengths of the gaps and of the ranges in turn. -/
def rangesFrom (n : Nat) : List Nat → List (Nat × Nat)
  | gap :: count :: rest => (n + gap, n + gap + count - 1) :: rangesFrom (n + gap + count) rest
  | _ => []

def inRanges (n : Nat) : List (Nat × Nat) → Bool
  | [] => false
  | (low, high) :: rest => if n < low then false else n ≤ high || inRanges n rest

end Componentry.Text
