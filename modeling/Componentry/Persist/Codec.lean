import Componentry.Json.Reader
import Componentry.Persist.Value

/-!
# Values as JSON

Values are stored as JSON. A tuple is written as an object with the single member `__tuple__`, so a
dictionary with such a key cannot be stored; neither can host objects and dictionaries whose keys
are not texts. `encode` gives nothing for those. Reading turns every such object back into a tuple,
inside out: `decode` does so on a tree, `builder` while a text is read.
-/

namespace Componentry.Codec

def tupleTag : String := "__tuple__"

mutual

/-- The JSON form of a value, if it has one. -/
def encode : Value → Option Json
  | .none => some .null
  | .bool b => some (.bool b)
  | .int n => some (.int n)
  | .float x => some (.float x)
  | .str s => some (.str s)
  | .list items => (encodeItems items).map .arr
  | .tuple items => (encodeItems items).map fun items => .obj [(tupleTag, .arr items)]
  | .dict entries => (encodeEntries entries).map .obj
  | .object _ => none

def encodeItems : List Value → Option (List Json)
  | [] => some []
  | v :: rest => do
    let j ← encode v
    let js ← encodeItems rest
    return j :: js

def encodeEntries : List (Value × Value) → Option (List (String × Json))
  | [] => some []
  | (.str key, v) :: rest =>
    if key = tupleTag then none
    else do
      let j ← encode v
      let js ← encodeEntries rest
      return (key, j) :: js
  | _ => none

end

/-- A value that has no items was marked as a tuple. -/
structure NotIterable where
  kind : String
deriving DecidableEq, Repr

/-- The items of a value: those of a list or tuple, the characters of a text, the keys of a
dictionary. -/
def itemsOf : Value → Except NotIterable (List Value)
  | .list items => .ok items
  | .tuple items => .ok items
  | .str s => .ok (s.toList.map fun c => .str (String.ofList [c]))
  | .dict entries => .ok (entries.map Prod.fst)
  | v => .error ⟨v.kindName⟩

/-- The value of an object whose members are read already. -/
def closeObject : List (String × Value) → Except NotIterable Value
  | [(name, v)] =>
    if name = tupleTag then (itemsOf v).map .tuple else .ok (.dict [(.str name, v)])
  | members => .ok (.dict (members.map fun m => (.str m.1, m.2)))

mutual

def decode : Json → Except NotIterable Value
  | .null => .ok .none
  | .bool b => .ok (.bool b)
  | .int n => .ok (.int n)
  | .float x => .ok (.float x)
  | .str s => .ok (.str s)
  | .arr items => do
    let items ← decodeItems items
    .ok (.list items)
  | .obj members => do
    let members ← decodeMembers members
    closeObject members

def decodeItems : List Json → Except NotIterable (List Value)
  | [] => .ok []
  | j :: rest => do
    let v ← decode j
    let vs ← decodeItems rest
    .ok (v :: vs)

def decodeMembers : List (String × Json) → Except NotIterable (List (String × Value))
  | [] => .ok []
  | (name, j) :: rest => do
    let v ← decode j
    let vs ← decodeMembers rest
    .ok ((name, v) :: vs)

end

/-- Makes values while a text is read. -/
def builder : Json.Builder NotIterable Value where
  null := .none
  bool := .bool
  int := .int
  float := .float
  str := .str
  arr := .list
  obj := closeObject

def read (text : String) : Except (Json.Fault NotIterable) Value := Json.read builder text

end Componentry.Codec
