import Componentry.Definition.Basic
import Componentry.Emit.Stmt
import Componentry.Ir.Exchange
import Componentry.Ir.Names

/-!
# Text of a module

A generated module imports the runtime library and the host types that it uses, then defines the
module-level values, the helpers and the component classes. A constant component is defined only if
the module does not have it yet.
-/

namespace Componentry.Emit

open Ir

/-- Host types that a module has to import, in order. Its own components and the types that are
always there need no import. -/
def importNames (m : Module) : List String :=
  let own := m.components.map Component.name
  Text.sortNames (m.hostNames.eraseDups.filter fun name =>
    !own.contains name && !Host.ambientNames.contains name)

def nonEmpty : Option String → Option String
  | some "" => none
  | s => s

def opening (m : Module) (hostModule sourceName : Option String) : String :=
  let note := match nonEmpty sourceName with
    | some name => " from " ++ name
    | none => ""
  let imports := match nonEmpty hostModule, importNames m with
    | none, _ => []
    | _, [] => []
    | some host, names => ["from " ++ host ++ " import " ++ commas names]
  Text.joinWith "\n" (("# Generated by hostcomp" ++ note ++ ". Do not edit.")
    :: ("import hostcomp.runtime as " ++ Definition.runtimeAlias) :: imports)

def exprOrNone : Option Expr → String
  | none => "None"
  | some e => expr e

def global (g : Global) : String := g.name ++ " = " ++ exprOrNone g.value

def functionHead (name : String) (params : List Param) : String :=
  "def " ++ name ++ "(" ++ commas (params.map Param.name) ++ "):"

def function (f : Function) : String :=
  Text.joinWith "\n" (functionHead f.name f.params :: block 1 f.body)

def nameTuple (names : List String) : String := Tree.encloseItems (names.map Text.quote)

def typeText : Option String → String
  | none => "None"
  | some s => Text.quote s

def metadata (c : Component) : List String :=
  let names (p : Field → Bool) : String := nameTuple ((c.fields.filter p).map Field.name)
  let types := c.fields.map fun f => Text.quote f.name ++ ": " ++ typeText f.typeName
  [ "__interfaces__ = " ++ nameTuple (c.implementations.map Implementation.interface),
    "__fields__ = " ++ names fun _ => true,
    "__mutable_fields__ = " ++ names Field.mutable,
    "__native_fields__ = " ++ names Field.native,
    "__hidden_fields__ = " ++ names Field.hidden,
    "__field_types__ = \x7b" ++ commas types ++ "\x7d" ]

/-- The lines of the constructor, which sets the fields that have defaults. -/
def constructorLines (c : Component) : List String :=
  (pad 1 ++ "def __init__(self, *args, **kwargs):")
    :: (pad 2 ++ "super().__init__(*args, **kwargs)")
    :: c.fields.filterMap fun f =>
      f.default.map fun e => pad 2 ++ "self." ++ f.name ++ " = " ++ expr e

def method (indent : Nat) (m : Method) : List String :=
  (pad indent ++ functionHead m.name m.params) :: block (indent + 1) m.body

def methods (indent : Nat) : List Method → List String
  | [] => []
  | [m] => method indent m
  | m :: rest => method indent m ++ "" :: methods indent rest

def implementation (i : Implementation) : List String :=
  "" :: (pad 1 ++ "# " ++ i.interface) :: methods 1 i.methods

/-- The lines of a component class. Fields are readable before the constructor runs. -/
def classLines (c : Component) : List String :=
  ("class " ++ c.name ++ "(" ++ c.baseCodeName ++ "):")
    :: (metadata c).map (pad 1 ++ ·)
    ++ c.fields.map (fun f => pad 1 ++ f.name ++ " = None")
    ++ "" :: constructorLines c
    ++ c.implementations.flatMap implementation

/-- Lets lines run only if the module does not have the component yet. -/
def guarded (name : String) (lines : List String) : List String :=
  ("if \"" ++ name ++ "\" not in globals():")
    :: lines.map fun line => if line = "" then line else indentUnit ++ line

def component (c : Component) : String :=
  Text.joinWith "\n" (if c.constant then guarded c.name (classLines c) else classLines c)

def chunks (m : Module) (hostModule sourceName : Option String) : List String :=
  opening m hostModule sourceName
    :: m.globals.map global ++ m.functions.map function ++ m.components.map component

/-- The text of a module. Without a host module its types are taken to be there already. -/
def generate (m : Module) (hostModule sourceName : Option String) : String :=
  Text.joinWith "\n\n\n" (chunks m hostModule sourceName) ++ "\n"

inductive Fault where
  /-- A whole number has too many digits. -/
  | longNumber
deriving DecidableEq, Repr

def Fault.message : Fault → String
  | .longNumber =>
    "Exceeds the limit (" ++ toString digitLimit ++ " digits) for integer string conversion; "
      ++ "use sys.set_int_max_str_digits() to increase the limit"

/-- The text of a module whose numbers can all be written. -/
def write (m : Module) (hostModule sourceName : Option String) : Except Fault String :=
  if m.isWritable then .ok (generate m hostModule sourceName) else .error .longNumber

end Componentry.Emit
