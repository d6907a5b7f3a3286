import Componentry.Table
import Componentry.Text.Order

/-!
# Host types and their registry

The host engine has classes with single inheritance. A `Registry` holds the known ones, newest
first, and the short names by which sources may call them. A type is only registered after its base,
so the ancestors of a type are met in one pass from newer to older registrations, and the registry
is a forest by construction.
-/

namespace Componentry

/-- A class of the host engine, or a component that a source declares. -/
structure HostType where
  name : String
  fullName : String
  base : Option String := none
  methods : List String := []
  /-- Field names with the designator of the field's type. -/
  fields : List (String × String) := []
  /-- The name in generated code when it differs from `name`. -/
  codeName : String := ""
  serializable : Bool := false
deriving DecidableEq, Repr

namespace HostType

/-- The name by which generated code refers to the type. -/
def emitName (t : HostType) : String := if t.codeName = "" then t.name else t.codeName

def methodNames (t : HostType) : List String := Text.sortNames t.methods.eraseDups

def ownField? (t : HostType) (field : String) : Option String :=
  (t.fields.find? (·.1 == field)).map Prod.snd

end HostType

/-- The known host types, newest first, and their aliases. -/
structure Registry where
  types : List HostType := []
  aliases : Table String := .empty
deriving DecidableEq, Repr

namespace Registry

/-- Why a registry refused a request. -/
inductive Error where
  | declared (fullName : String)
  | unknownBase (fullName base : String)
  | nameTaken (name : String)
  | unresolved (designator : String)
deriving DecidableEq, Repr

def Error.message : Error → String
  | .declared fullName => "Host type '" ++ fullName ++ "' already declared."
  | .unknownBase fullName base =>
    "Host type '" ++ fullName ++ "' extends unknown type '" ++ base ++ "'."
  | .nameTaken name => "Type name '" ++ name ++ "' is already declared."
  | .unresolved designator => "'" ++ designator ++ "' does not resolve to a type."

def empty : Registry := {}

def find? (r : Registry) (fullName : String) : Option HostType :=
  r.types.find? (·.fullName == fullName)

/-- The type that a designator names: a full name wins over an alias. -/
def lookup (r : Registry) (designator : String) : Option HostType :=
  match r.find? designator with
  | some t => some t
  | none => (r.aliases.get? designator).bind r.find?

def ensure (r : Registry) (designator : String) : Except Error HostType :=
  match r.lookup designator with
  | some t => .ok t
  | none => .error (.unresolved designator)

/-- Adds a type under its name and the other aliases; an alias that is taken stays as it is. -/
def add (r : Registry) (t : HostType) (aliases : List String) : Registry :=
  { types := t :: r.types
    aliases := (t.name :: aliases).foldl (fun table a => table.putNew a t.fullName) r.aliases }

/-- Registers a type whose full name is new and whose base is known. -/
def register (r : Registry) (t : HostType) (aliases : List String) : Except Error Registry :=
  if (r.find? t.fullName).isSome then .error (.declared t.fullName)
  else
    match t.base with
    | none => .ok (r.add t aliases)
    | some base =>
      if (r.find? base).isSome then .ok (r.add t aliases)
      else .error (.unknownBase t.fullName base)

/-- Registers a component under a name that designates nothing yet. -/
def registerComponent (r : Registry) (name base : String) (methods : List String)
    (fields : List (String × String)) : Except Error (HostType × Registry) := do
  let baseType ← r.ensure base
  if (r.lookup name).isSome then .error (.nameTaken name)
  else
    let t : HostType :=
      { name, fullName := name, base := some baseType.fullName, methods, fields, codeName := name,
        serializable := true }
    let r ← r.register t []
    .ok (t, r)

/-- The type of the given full name and its bases, looked for among ever older registrations. -/
def chain : List HostType → Option String → List HostType
  | _, none => []
  | [], some _ => []
  | t :: older, some fullName =>
    if t.fullName = fullName then t :: chain older t.base else chain older (some fullName)

/-- A type and then each base up to the root. -/
def ancestors (r : Registry) (t : HostType) : List HostType := t :: chain r.types t.base

def isSubtype (r : Registry) (sub sup : HostType) : Bool :=
  (r.ancestors sub).any (·.fullName == sup.fullName)

def isStrictSubtype (r : Registry) (sub sup : HostType) : Bool :=
  sub.fullName != sup.fullName && r.isSubtype sub sup

/-- Whether one of two types is a base of the other. Unrelated classes share no instance. -/
def areRelated (r : Registry) (left right : HostType) : Bool :=
  r.isSubtype left right || r.isSubtype right left

def hasMethod (r : Registry) (t : HostType) (method : String) : Bool :=
  (r.ancestors t).any (·.methods.contains method)

/-- The type of a field, as the nearest type on the way to the root that has it declares it. -/
def fieldType (r : Registry) (t : HostType) (field : String) : Option HostType :=
  ((r.ancestors t).findSome? (·.ownField? field)).bind r.lookup

def fullNames (r : Registry) : List String := (r.types.map HostType.fullName).reverse

end Registry

end Componentry
