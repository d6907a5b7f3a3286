import Componentry.Decimal.Binary64

/-!
# JSON trees

The tree that documents are written from and read into. Whole numbers and doubles are different
kinds, and an object keeps its members in order.
-/

namespace Componentry

inductive Json where
  | null
  | bool (value : Bool)
  | int (value : Int)
  | float (value : Binary64)
  | str (value : String)
  | arr (items : List Json)
  | obj (members : List (String × Json))
deriving Repr

namespace Json

instance : Inhabited Json := ⟨.null⟩

def ofOption : Option String → Json
  | none => .null
  | some s => .str s

def ofTexts (texts : List String) : Json := .arr (texts.map .str)

def member? (j : Json) (name : String) : Option Json :=
  match j with
  | .obj members => (members.find? (·.1 == name)).map Prod.snd
  | _ => none

end Json

end Componentry
