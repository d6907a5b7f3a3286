import Componentry.Decimal.Quantity
import Componentry.Entries
import Componentry.Json.Basic

/-!
# Values of component fields

The values that a component's fields may hold while a program runs. Objects of the host are known by
a name only.
-/

namespace Componentry

inductive Value where
  | none
  | bool (value : Bool)
  | int (value : Int)
  | float (value : Binary64)
  | str (value : String)
  | list (items : List Value)
  | tuple (items : List Value)
  | dict (entries : List (Value × Value))
  /-- An object that belongs to the host. -/
  | object (name : String)
deriving Repr

namespace Value

instance : Inhabited Value := ⟨.none⟩

/-- The kind of a value, as messages name it. -/
def kindName : Value → String
  | none => "NoneType"
  | bool _ => "bool"
  | int _ => "int"
  | float _ => "float"
  | str _ => "str"
  | list _ => "list"
  | tuple _ => "tuple"
  | dict _ => "dict"
  | object _ => "Opaque"

/-- Whether a value counts as nothing: zero, empty, false or absent. -/
def isVoid : Value → Bool
  | none => true
  | bool b => !b
  | int n => n == 0
  | float (.finite _ mantissa _) => mantissa == 0
  | float _ => false
  | str s => s == ""
  | list items => items.isEmpty
  | tuple items => items.isEmpty
  | dict entries => entries.isEmpty
  | object _ => false

/-! ## Equal keys -/

def quantity? : Value → Option Quantity
  | bool b => some (.ofBool b)
  | int n => some (.ofInt n)
  | float x => Quantity.ofBinary64? x
  | _ => Option.none

mutual

/-- Whether two keys of a dictionary are equal. Numbers of all kinds are compared by their exact
values, and what is not a number is equal to nothing. -/
def isSameKey : Value → Value → Bool
  | none, none => true
  | str s, str t => s == t
  | object a, object b => a == b
  | tuple xs, tuple ys => areSameKeys xs ys
  | a, b => a.quantity?.isSome && a.quantity? == b.quantity?

def areSameKeys : List Value → List Value → Bool
  | [], [] => true
  | x :: xs, y :: ys => isSameKey x y && areSameKeys xs ys
  | _, _ => false

end

def ofPairs (pairs : List (Value × Value)) : Value := .dict (Entries.ofPairs isSameKey pairs)

def text? : Value → Option String
  | str s => some s
  | _ => Option.none

end Value

end Componentry
