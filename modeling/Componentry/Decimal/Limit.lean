/-!
# The limit on decimal numbers

Conversions between whole numbers and their decimal digits stop at a number of digits.
-/

namespace Componentry

/-- Whole numbers of more decimal digits than this are neither read nor written. -/
def digitLimit : Nat := 4300

def firstUnwritable : Nat := Nat.pow 10 digitLimit

def isWritable (n : Int) : Bool := n.natAbs < firstUnwritable

end Componentry
