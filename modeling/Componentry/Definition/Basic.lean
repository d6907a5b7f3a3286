import Componentry.Compile.Trace
import Componentry.Host.Messages
import Componentry.Host.Model
import Componentry.Ir.Basic
import Componentry.Text.Identifier

/-!
# Definitions of components

A component declares methods in two ways: by the bare name of a message that the host knows, or in a
group for one interface. A definition gathers both into one list, keeps one declaration of each
name, adds the lifecycle methods that every component has, and sorts the methods into one
implementation per interface.
-/

namespace Componentry

/-- A method as a component declares it. -/
structure MethodForm where
  name : String
  params : List Ir.Param
  body : List Ir.Stmt
  place : Option Place := none

/-- A declaration in the body of a component. -/
inductive Declaration where
  /-- A method named after a message. -/
  | message (form : MethodForm)
  /-- Methods that implement one interface. -/
  | group (interface : String) (methods : List MethodForm)
  /-- A method that belongs in a group but stands outside; it declares nothing. -/
  | stray (form : MethodForm)

def MethodForm.toMethod (form : MethodForm) (interface : String) : Ir.Method :=
  { name := form.name, params := form.params, body := form.body, interface := some interface }

def Declaration.forms : Declaration → List MethodForm
  | .message form => [form]
  | .group _ methods => methods
  | .stray _ => []

namespace Definition

/-- The name of the runtime library in generated code. -/
def runtimeAlias : String := "hostcomp_runtime"

def runtimeCall (function : String) (args : List Ir.Expr) : Ir.Stmt :=
  .exprStmt (.call (.attr (.var runtimeAlias) function) args)

/-! ## Declared methods -/

/-- Separates messages from groups. All messages come first. -/
def split (ambient : Option Place) (messages : List MethodForm)
    (groups : List (String × List MethodForm)) :
    List Declaration → Except Diagnostic (List MethodForm × List (String × List MethodForm))
  | [] => .ok (messages, groups)
  | .message form :: rest =>
    if groups.isEmpty then split ambient (messages ++ [form]) groups rest
    else .error ⟨.lateMessage form.name, form.place <|> ambient⟩
  | .group interface methods :: rest =>
    split ambient messages (groups ++ [(interface, methods)]) rest
  | .stray _ :: _ => .error ⟨.declaration "MethodForm", ambient⟩

def messageMethods (known : Messages) (ambient : Option Place) :
    List MethodForm → Except Diagnostic (List Ir.Method)
  | [] => .ok []
  | form :: rest =>
    match known.interfaceFor form.name with
    | none => .error ⟨.unknownMessage form.name, form.place <|> ambient⟩
    | some interface => do
      let rest ← messageMethods known ambient rest
      .ok (form.toMethod interface :: rest)

def groupMethods (known : Messages) (groups : List (String × List MethodForm)) : List Ir.Method :=
  groups.flatMap fun (interface, methods) =>
    methods.map (·.toMethod (known.canonical interface))

def declaredMethods (known : Messages) (ambient : Option Place) (declarations : List Declaration) :
    Except Diagnostic (List Ir.Method) := do
  let (messages, groups) ← split ambient [] [] declarations
  let methods ← messageMethods known ambient messages
  .ok (methods ++ groupMethods known groups)

/-! ## Repeated names -/

/-- Keeps the last method of every name. -/
def keepLast : List Ir.Method → List Ir.Method
  | [] => []
  | m :: rest => if rest.any (·.name == m.name) then keepLast rest else m :: keepLast rest

/-- Keeps the first method of every name, given the names met before. -/
def keepFirst (met : List String) : List Ir.Method → List Ir.Method
  | [] => []
  | m :: rest =>
    if met.contains m.name then keepFirst met rest else m :: keepFirst (m.name :: met) rest

def kept (policy : DuplicatePolicy) (methods : List Ir.Method) : List Ir.Method :=
  match policy with
  | .keepFirst => keepFirst [] methods
  | _ => keepLast methods

/-- The names that occur more than once, in the order of their first occurrence, with how often. -/
def repeated (names : List String) : List (String × Nat) :=
  (names.eraseDups.map fun name => (name, names.count name)).filter fun entry => 1 < entry.2

/-- The place of the last declaration of a name that has one. -/
def placeOf (declarations : List Declaration) (name : String) : Option Place :=
  (((declarations.flatMap Declaration.forms).filter (·.name == name)).filterMap
    MethodForm.place).getLast?

/-- Settles repeated names: refuses them, or warns and keeps one declaration of each. -/
def settle (policy : DuplicatePolicy) (component : String) (ambient : Option Place)
    (declarations : List Declaration) (methods : List Ir.Method) : CompileM (List Ir.Method) := do
  for (name, count) in repeated (methods.map Ir.Method.name) do
    let place := placeOf declarations name <|> ambient
    match policy with
    | .refuse => CompileM.refuse place (.duplicateMethod name count component)
    | .keepFirst => CompileM.warn ⟨.duplicateMethod name count component false, place⟩
    | .keepLast => CompileM.warn ⟨.duplicateMethod name count component true, place⟩
  return kept policy methods

/-! ## Methods that every component has -/

/-- A method that is added where a component declares none of its name. -/
structure Default where
  name : String
  interface : Option String := none
  body : List Ir.Stmt := []

def defaults : List Default :=
  [ { name := "Start" },
    { name := "Awake" },
    { name := "OnAfterDeserialize", interface := some Messages.serializationInterface,
      body := [runtimeCall "default_on_after_deserialize" [.var "self"]] },
    { name := "OnBeforeSerialize", interface := some Messages.serializationInterface,
      body := [runtimeCall "default_on_before_serialize" [.var "self"]] } ]

/-- The methods of defaults whose names are not declared. -/
def missingDefaults (known : Messages) (ambient : Option Place) (declared : List String) :
    List Default → Except Diagnostic (List Ir.Method)
  | [] => .ok []
  | d :: rest =>
    if declared.contains d.name then missingDefaults known ambient declared rest
    else
      match d.interface <|> known.interfaceFor d.name with
      | none => .error ⟨.defaultInterface d.name, ambient⟩
      | some interface => do
        let rest ← missingDefaults known ambient declared rest
        .ok ({ name := d.name, params := [{ name := "self" }], body := d.body,
               interface := some interface } :: rest)

/-- Messages that the host may send before the module of the component is loaded. -/
def loadingMessages : List String := ["Awake", "Start", "OnDrawGizmos", "OnDrawGizmosSelected"]

/-- Makes such a message load the module first. Without a module name the generated module names
itself. -/
def withLoading (moduleName : Option String) (m : Ir.Method) : Ir.Method :=
  if loadingMessages.contains m.name then
    let module : Ir.Expr := match moduleName with
      | none | some "" => .var "__name__"
      | some name => .const (.str name)
    { m with body := runtimeCall "require_module" [module] :: m.body }
  else m

/-! ## Fields -/

/-- Checks the names of fields, given those met before. -/
def checkFields (component : String) (ambient : Option Place) (methodNames met : List String) :
    List Ir.Field → Except Diagnostic Unit
  | [] => .ok ()
  | f :: rest =>
    let refuse (cause : Cause) : Except Diagnostic Unit := .error ⟨cause, ambient⟩
    if !Text.isIdentifier f.name || Text.isReserved f.name then
      refuse (.invalidField f.name component)
    else if generatedStart.toList.isPrefixOf f.name.toList then refuse (.generatedField f.name)
    else if f.name = serializedField then refuse .reservedField
    else if met.contains f.name then refuse (.duplicateField f.name component)
    else if methodNames.contains f.name then refuse (.fieldClash f.name component)
    else checkFields component ambient methodNames (f.name :: met) rest

/-- The field that holds the serialized state. -/
def stateField : Ir.Field :=
  { name := serializedField, typeName := some Host.stringName, mutable := true, hidden := true,
    native := true }

/-- The fields of a component: the host writes them after construction, so all are mutable, and a
constant component has one for its serialized state. -/
def completeFields (constant : Bool) (fields : List Ir.Field) : List Ir.Field :=
  fields.map (fun f => { f with mutable := true }) ++ if constant then [stateField] else []

/-! ## Definitions -/

/-- Sorts methods into one implementation per interface, in the order of their first methods. -/
def byInterface (methods : List Ir.Method) : List Ir.Implementation :=
  ((methods.filterMap Ir.Method.interface).eraseDups).map fun interface =>
    { interface, methods := methods.filter (·.interface == some interface) }

structure Input where
  name : String
  fields : List Ir.Field := []
  declarations : List Declaration := []
  constant : Bool := true
  moduleName : Option String := none
  base : String := Host.monoBehaviourName
  baseCodeName : String := "MonoBehaviour"

def compile (known : Messages) (policy : DuplicatePolicy) (ambient : Option Place) (d : Input) :
    CompileM Ir.Component := do
  let methods ← ofExcept (declaredMethods known ambient d.declarations)
  let methods ← settle policy d.name ambient d.declarations methods
  let added ← ofExcept (missingDefaults known ambient (methods.map Ir.Method.name) defaults)
  let methods := (methods ++ added).map (withLoading d.moduleName)
  ofExcept (checkFields d.name ambient (methods.map Ir.Method.name) [] d.fields)
  return {
    name := d.name
    base := d.base
    baseCodeName := d.baseCodeName
    fields := completeFields d.constant d.fields
    implementations := byInterface methods
    constant := d.constant }

end Definition

end Componentry
