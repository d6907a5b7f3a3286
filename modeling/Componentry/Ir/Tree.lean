import Componentry.Decimal.Limit
import Componentry.Decimal.Quantity
import Componentry.Decimal.Written
import Componentry.Entries
import Componentry.Json.Basic
import Componentry.Json.Writer
import Componentry.Text.Lines
import Componentry.Text.Quoted

/-!
# Tagged trees

Compiled code is exchanged as trees of plain data in which every node carries its kind. A `Tree`
also holds what is no compiled code: any constant, and nodes in places where they do not belong. Its
JSON form tags a node with the name of its kind.
-/

namespace Componentry.Ir

inductive Kind where
  | const | var | typeRef | attr | call | unary | binary | ifExpr | isInstance | annotated | letIn
  | list | tuple | dict | subscript
  | assign | augAssign | exprStmt | ifElse | whileDo | forIn | ret | brk | cont
  | param | field | method | implementation | component | function | global | module
deriving DecidableEq, Repr

def Kind.name : Kind → String
  | .const => "Const"
  | .var => "Var"
  | .typeRef => "TypeRef"
  | .attr => "Attr"
  | .call => "Call"
  | .unary => "Unary"
  | .binary => "Binary"
  | .ifExpr => "IfExpr"
  | .isInstance => "IsInstance"
  | .annotated => "Annotated"
  | .letIn => "Let"
  | .list => "ListExpr"
  | .tuple => "TupleExpr"
  | .dict => "DictExpr"
  | .subscript => "SubscriptExpr"
  | .assign => "Assign"
  | .augAssign => "AugAssign"
  | .exprStmt => "ExprStmt"
  | .ifElse => "If"
  | .whileDo => "While"
  | .forIn => "For"
  | .ret => "Return"
  | .brk => "Break"
  | .cont => "Continue"
  | .param => "Param"
  | .field => "FieldDecl"
  | .method => "MethodDecl"
  | .implementation => "InterfaceImpl"
  | .component => "ComponentIR"
  | .function => "FunctionIR"
  | .global => "GlobalDecl"
  | .module => "ModuleIR"

def Kind.all : List Kind :=
  [.const, .var, .typeRef, .attr, .call, .unary, .binary, .ifExpr, .isInstance, .annotated, .letIn,
    .list, .tuple, .dict, .subscript, .assign, .augAssign, .exprStmt, .ifElse, .whileDo, .forIn,
    .ret, .brk, .cont, .param, .field, .method, .implementation, .component, .function, .global,
    .module]

def Kind.ofName? (name : String) : Option Kind := Kind.all.find? (·.name == name)

/-- Plain data with tagged nodes. -/
inductive Tree where
  | none
  | bool (value : Bool)
  | int (value : Int)
  | float (value : Binary64)
  | str (value : String)
  | list (items : List Tree)
  | tuple (items : List Tree)
  | dict (entries : List (Tree × Tree))
  /-- One of a fixed set of choices, known by its word. -/
  | choice (word : String)
  | node (kind : Kind) (fields : List (String × Tree))
deriving Repr

namespace Tree

instance : Inhabited Tree := ⟨.none⟩

def ofText? : Option String → Tree
  | .none => .none
  | some s => .str s

/-! ## Equal keys -/

def quantity? : Tree → Option Quantity
  | .bool b => some (.ofBool b)
  | .int n => some (.ofInt n)
  | .float x => Quantity.ofBinary64? x
  | _ => Option.none

mutual

/-- Whether two keys of a dictionary are equal. Numbers of all kinds are compared by their exact
values, and what is not a number is equal to nothing. -/
def isSameKey : Tree → Tree → Bool
  | .none, .none => true
  | .str s, .str t => s == t
  | .choice a, .choice b => a == b
  | .tuple xs, .tuple ys => areSameKeys xs ys
  | a, b => a.quantity?.isSome && a.quantity? == b.quantity?

def areSameKeys : List Tree → List Tree → Bool
  | [], [] => true
  | x :: xs, y :: ys => isSameKey x y && areSameKeys xs ys
  | _, _ => false

end

def ofPairs (pairs : List (Tree × Tree)) : Tree := .dict (Entries.ofPairs isSameKey pairs)

/-! ## Written form -/

def boolWord (b : Bool) : String := if b then "True" else "False"

def choiceName (word : String) : String :=
  "DuplicatePolicy." ++ String.ofList (word.toList.map Char.toUpper)

/-- Encloses items in round brackets; a single item keeps a comma. -/
def encloseItems : List String → String
  | [s] => "(" ++ s ++ ",)"
  | items => "(" ++ Text.joinWith ", " items ++ ")"

mutual

def text : Tree → String
  | .none => "None"
  | .bool b => boolWord b
  | .int n => Json.intText n
  | .float x => x.text
  | .str s => Text.quote s
  | .list items => "[" ++ Text.joinWith ", " (texts items) ++ "]"
  | .tuple items => encloseItems (texts items)
  | .dict entries => "\x7b" ++ Text.joinWith ", " (entryTexts entries) ++ "\x7d"
  | .choice word => "<" ++ choiceName word ++ ": " ++ Text.quote word ++ ">"
  | .node kind fields => kind.name ++ "(" ++ Text.joinWith ", " (fieldTexts fields) ++ ")"

def texts : List Tree → List String
  | [] => []
  | t :: rest => t.text :: texts rest

def entryTexts : List (Tree × Tree) → List String
  | [] => []
  | (k, v) :: rest => (k.text ++ ": " ++ v.text) :: entryTexts rest

def fieldTexts : List (String × Tree) → List String
  | [] => []
  | (name, t) :: rest => (name ++ "=" ++ t.text) :: fieldTexts rest

end

/-- What a tree is, as messages name it: the tag of a node, or the kind of plain data. -/
def kindName : Tree → String
  | .none => "NoneType"
  | .bool _ => "bool"
  | .int _ => "int"
  | .float _ => "float"
  | .str _ => "str"
  | .list _ => "list"
  | .tuple _ => "tuple"
  | .dict _ => "dict"
  | .choice _ => "DuplicatePolicy"
  | .node kind _ => kind.name

/-- A key of a JSON object: a text stands for itself, a choice for its name, other data for its
written form. -/
def keyText : Tree → String
  | .str s => s
  | .choice word => choiceName word
  | t => t.text

/-! ## Numbers -/

mutual

def isWritable : Tree → Bool
  | .int n => Componentry.isWritable n
  | .list items => areWritable items
  | .tuple items => areWritable items
  | .dict entries => entriesAreWritable entries
  | .node _ fields => fieldsAreWritable fields
  | _ => true

def areWritable : List Tree → Bool
  | [] => true
  | t :: rest => t.isWritable && areWritable rest

def entriesAreWritable : List (Tree × Tree) → Bool
  | [] => true
  | (k, v) :: rest => k.isWritable && v.isWritable && entriesAreWritable rest

def fieldsAreWritable : List (String × Tree) → Bool
  | [] => true
  | (_, t) :: rest => t.isWritable && fieldsAreWritable rest

end

/-! ## JSON form -/

mutual

/-- The JSON form: nodes become objects with their tag, tuples become lists, and dictionary keys
become texts. -/
def toJson : Tree → Json
  | .none => .null
  | .bool b => .bool b
  | .int n => .int n
  | .float x => .float x
  | .str s => .str s
  | .list items => .arr (toJsons items)
  | .tuple items => .arr (toJsons items)
  | .dict entries => .obj (toEntries entries)
  | .choice word => .str word
  | .node kind fields => .obj (("node", .str kind.name) :: toMembers fields)

def toJsons : List Tree → List Json
  | [] => []
  | t :: rest => t.toJson :: toJsons rest

def toEntries : List (Tree × Tree) → List (String × Json)
  | [] => []
  | (k, v) :: rest => (k.keyText, v.toJson) :: toEntries rest

def toMembers : List (String × Tree) → List (String × Json)
  | [] => []
  | (name, t) :: rest => (name, t.toJson) :: toMembers rest

end

end Tree

/-! ## Fields of nodes -/

/-- A field of a node: its name, and its value where a tree may leave it out. -/
abbrev Slot := String × Option Tree

/-- The fields of each kind, in order. -/
def Kind.slots : Kind → List Slot
  | .const => [("value", none)]
  | .var => [("name", none)]
  | .typeRef => [("type_name", none), ("py_name", none)]
  | .attr => [("obj", none), ("field", none)]
  | .call => [("func", none), ("args", none)]
  | .unary => [("op", none), ("value", none)]
  | .binary => [("op", none), ("left", none), ("right", none)]
  | .ifExpr => [("condition", none), ("then", none), ("orelse", none)]
  | .isInstance => [("value", none), ("type_name", none), ("py_name", none)]
  | .annotated => [("value", none), ("type_name", none)]
  | .letIn => [("bindings", none), ("body", none)]
  | .list => [("items", none)]
  | .tuple => [("items", none)]
  | .dict => [("keys", none), ("values", none)]
  | .subscript => [("value", none), ("index", none)]
  | .assign => [("target", none), ("value", none)]
  | .augAssign => [("target", none), ("op", none), ("value", none)]
  | .exprStmt => [("value", none)]
  | .ifElse => [("condition", none), ("body", none), ("orelse", none)]
  | .whileDo => [("condition", none), ("body", none)]
  | .forIn => [("var", none), ("iterable", none), ("body", none)]
  | .ret => [("value", some .none)]
  | .brk => []
  | .cont => []
  | .param => [("name", none), ("type_name", some .none)]
  | .field => [("name", none), ("type_name", some .none), ("default", some .none),
      ("mutable", some (.bool true)), ("hidden", some (.bool false)),
      ("native", some (.bool false))]
  | .method => [("name", none), ("params", none), ("body", none), ("interface", some .none)]
  | .implementation => [("interface", none), ("methods", none)]
  | .component => [("name", none), ("base", none), ("base_py_name", none), ("fields", none),
      ("implementations", none), ("constant", some (.bool true))]
  | .function => [("name", none), ("params", none), ("body", none)]
  | .global => [("name", none), ("type_name", some .none), ("value", some .none)]
  | .module => [("globals", none), ("functions", none), ("components", none),
      ("module_name", some .none)]

/-- Completes the given fields to those of the kind, in its order; fails if a field without default
is missing. -/
def Kind.complete? (slots : List Slot) (given : List (String × Tree)) :
    Option (List (String × Tree)) :=
  slots.mapM fun (name, default) =>
    match given.find? (·.1 == name) with
    | some (_, t) => some (name, t)
    | none => default.map fun t => (name, t)

end Componentry.Ir
