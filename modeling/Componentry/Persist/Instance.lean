import Componentry.Diagnostic.Basic
import Componentry.Json.Writer
import Componentry.Persist.Codec
import Componentry.Table

/-!
# Saving and restoring components

The host stores some fields of a component by itself. Before it does, the other fields are gathered
into one text, which the host stores as one more field; afterwards they are set from that text.

Whatever the text names is set, whether or not it is a field. An attribute that a base class
computes cannot be set, and every object has attributes of its own: the assignments end at the first
name that cannot be set, and those in front of it have been made.
-/

namespace Componentry.Persist

/-- What a component class says about its fields. -/
structure ClassInfo where
  name : String
  fields : List String := []
  nativeFields : List String := []
  hiddenFields : List String := []
  /-- Values of attributes that an instance has not set. -/
  defaults : Table Value := .empty
  /-- Attributes that a base class computes. A field hides the one of its name. -/
  computed : List String := []
  /-- The eldest base class, if there is one. -/
  root : Option String := none

/-- The attributes that an instance has set, in order. -/
abbrev Instance := Table Value

/-- Why a component could not be restored. -/
inductive Error where
  | invalidText (component : String)
  | notAnObject (component : String)
  | tooManyDigits (count : Nat)
  | notIterable (kind : String)
  | notText (kind : String)
  | notAClass (kind : String)
  | notADictionary (kind : String)
  | notWritable (name owner : String)
  | noSetter (name component : String)
deriving DecidableEq, Repr

def Error.message : Error → String
  | invalidText component =>
    "Could not deserialize <" ++ component ++ ">. Serialized data might be invalid."
  | notAnObject component =>
    "Could not deserialize <" ++ component ++ ">. Serialized data must be an object."
  | tooManyDigits count =>
    "Exceeds the limit (" ++ toString digitLimit
      ++ " digits) for integer string conversion: value has " ++ toString count
      ++ " digits; use sys.set_int_max_str_digits() to increase the limit"
  | notIterable kind => "'" ++ kind ++ "' object is not iterable"
  | notText kind => "the JSON object must be str, bytes or bytearray, not " ++ kind
  | notAClass kind => "__class__ must be set to a class, not '" ++ kind ++ "' object"
  | notADictionary kind => "__dict__ must be set to a dictionary, not a '" ++ kind ++ "'"
  | notWritable name owner =>
    "attribute '" ++ name ++ "' of '" ++ owner ++ "' objects is not writable"
  | noSetter name component =>
    "property '" ++ name ++ "' of '" ++ component ++ "' object has no setter"

/-- The value of an attribute; nothing where neither the instance nor its class has one. -/
def valueOf (c : ClassInfo) (i : Instance) (name : String) : Value :=
  ((i.get? name) <|> (c.defaults.get? name)).getD .none

def fieldMap (c : ClassInfo) (i : Instance) : List (String × Value) :=
  c.fields.eraseDups.map fun name => (name, valueOf c i name)

def storedByHost (c : ClassInfo) : List String := (c.nativeFields ++ c.hiddenFields).eraseDups

def hasState (c : ClassInfo) : Bool := c.fields.contains serializedField

/-- The fields that are gathered, without those whose values have no JSON form. -/
def payload (c : ClassInfo) (i : Instance) : List (String × Json) :=
  (fieldMap c i).filterMap fun (name, value) =>
    if (storedByHost c).contains name then none else (Codec.encode value).map fun j => (name, j)

/-- Gathers the fields that the host does not store. -/
def beforeSerialize (c : ClassInfo) (i : Instance) : Instance :=
  if hasState c then i.put serializedField (.str (Json.obj (payload c i)).line) else i

/-- Reads the text that holds the gathered fields. -/
def readState (c : ClassInfo) (text : String) : Except Error (List (Value × Value)) :=
  match Codec.read text with
  | .ok (.dict entries) => .ok entries
  | .ok _ => .error (.notAnObject c.name)
  | .error .malformed => .error (.invalidText c.name)
  | .error (.tooManyDigits count) => .error (.tooManyDigits count)
  | .error (.refused reason) => .error (.notIterable reason.kind)

def objectNames : List String := ["__class__", "__dict__", "__weakref__"]

/-- Whether an attribute is stored in the instance when it is set. -/
def ClassInfo.stores (c : ClassInfo) (name : String) : Bool :=
  c.fields.contains name || !(objectNames ++ c.computed).contains name

/-- The entries of a dictionary whose keys are texts, as attributes. -/
def attributesOf (entries : List (Value × Value)) : Instance :=
  ⟨entries.filterMap fun e => e.1.text?.map fun name => (name, e.2)⟩

/-- Sets an attribute. A dictionary that is set as `__dict__` takes the place of all attributes. -/
def assign (c : ClassInfo) (i : Instance) (name : String) (v : Value) : Except Error Instance :=
  if c.stores name then .ok (i.put name v)
  else if name = "__class__" then .error (.notAClass v.kindName)
  else if name = "__dict__" then
    match v with
    | .dict entries => .ok (attributesOf entries)
    | _ => .error (.notADictionary v.kindName)
  else if name = "__weakref__" then .error (.notWritable name (c.root.getD c.name))
  else .error (.noSetter name c.name)

/-- Sets attributes one after the other, up to one that cannot be set. The result is what is raised
and what the instance has become. -/
def setAll (c : ClassInfo) (i : Instance) : List (Value × Value) → Option Error × Instance
  | [] => (none, i)
  | (.str name, v) :: rest =>
    match assign c i name v with
    | .ok i => setAll c i rest
    | .error e => (some e, i)
  | _ :: rest => setAll c i rest

/-- Sets the fields that were gathered. The result is what is raised and what the instance has
become. -/
def restore (c : ClassInfo) (i : Instance) : Option Error × Instance :=
  let data := valueOf c i serializedField
  if !hasState c || data.isVoid then (none, i)
  else
    match data with
    | .str text =>
      match readState c text with
      | .ok entries => setAll c i entries
      | .error e => (some e, i)
    | v => (some (.notText v.kindName), i)

/-- The instance after its fields have been set, if nothing is raised. -/
def afterDeserialize (c : ClassInfo) (i : Instance) : Except Error Instance :=
  match restore c i with
  | (none, r) => .ok r
  | (some e, _) => .error e

end Componentry.Persist
