import Componentry.Compile.Stmt
import Componentry.Definition.Basic

/-!
# Compiling functions and components

A component is a class whose body holds annotated fields, methods, and groups of methods for an
interface. Its type is registered before any body is compiled, so bodies may refer to every
component of the source.
-/

namespace Componentry.Compile

open CompileM

/-- A class of the source with what its head says. -/
structure ComponentSource where
  span : Source.Span
  name : String
  body : List Source.Stmt
  type : HostType
  constant : Bool

structure FunctionSource where
  span : Source.Span
  name : String
  params : Source.Params
  body : List Source.Stmt
  decorators : List Source.Expr
  returns : Option Source.Expr

/-! ## Functions -/

def paramList (r : Registry) : List Source.Param → TypeEnv → CompileM (List Ir.Param × TypeEnv)
  | [], env => pure ([], env)
  | p :: rest, env => do
    checkName p.span p.name
    let type ← annotType r p.span p.annot
    let env := if type.isNone then env.bind p.name none else env.declare p.name type
    let (params, env) ← paramList r rest env
    return (⟨p.name, type.map HostType.fullName⟩ :: params, env)

/-- Compiles the parameters of a function; a method's first one is its component. -/
def params (r : Registry) (fn : FunctionSource) (receiver : Option HostType) (env : TypeEnv) :
    CompileM (List Ir.Param × TypeEnv) := do
  if fn.returns.isSome then refuseAt fn.span .returnAnnot
  let ps := fn.params
  if ps.variadic.isSome || ps.keywords.isSome then refuseAt fn.span .variadicParams
  if !ps.positionalOnly.isEmpty || !ps.keywordOnly.isEmpty || !ps.defaults.isEmpty then
    refuseAt fn.span .irregularParams
  match receiver with
  | none => paramList r ps.regular env
  | some type =>
    match ps.regular with
    | [] => refuseAt fn.span (.missingReceiver fn.name)
    | p :: rest =>
      if p.annot.isSome then refuseAt fn.span .annotatedReceiver
      let (params, env) ← paramList r rest (env.declare p.name type)
      return (⟨p.name, type.fullName⟩ :: params, env)

def function (r : Registry) (env : TypeEnv) (fn : FunctionSource) : CompileM Ir.Function := do
  if !fn.decorators.isEmpty then refuseAt fn.span .helperDecorators
  let (params, env) ← params r fn none env
  let (body, _) ← block r fn.body false env
  return ⟨fn.name, params, body⟩

def method (r : Registry) (env : TypeEnv) (type : HostType) (fn : FunctionSource) :
    CompileM MethodForm := do
  if !fn.decorators.isEmpty then refuseAt fn.span .methodDecorators
  if ['_', '_'].isPrefixOf fn.name.toList then refuseAt fn.span (.reservedMethod fn.name)
  let (params, env) ← params r fn (some type) env
  let (body, _) ← block r fn.body false env
  return ⟨fn.name, params, body, some (.ofSpan fn.span)⟩

/-! ## Heads of components -/

/-- Whether the decorators leave a component constant. -/
def isConstant (span : Source.Span) : List Source.Expr → CompileM Bool
  | [] => pure true
  | .name _ id _ :: rest => do
    if id ≠ redefinableName then refuseAt span .componentDecorator
    let _ ← isConstant span rest
    return false
  | _ => refuseAt span .componentDecorator

/-- A component may only name the one base that all components have. -/
def checkBases (r : Registry) (span : Source.Span) : List Source.Expr → CompileM Unit
  | [] => pure ()
  | [base] => do
    let designator ← ofExcept (base.expectDotted "base")
    let type ← ofRegistry (some (.ofSpan span)) (r.ensure designator)
    if type.fullName ≠ Host.monoBehaviourName then refuseAt span .componentBase
  | _ => refuseAt span .componentBase

def methodNames : Source.Stmt → List String
  | .functionDef _ name .. => [name]
  | .classDef _ _ _ _ body _ => body.filterMap fun
    | .functionDef _ name .. => some name
    | _ => none
  | _ => []

/-- Fields with the designators of their types, without those of open type. -/
def fieldDesignators : List Source.Stmt → Except Diagnostic (List (String × String))
  | [] => .ok []
  | .annAssign _ (.name _ id _) annot _ :: rest => do
    let designator ← annot.designator
    let rest ← fieldDesignators rest
    .ok (designator.toList.map (id, ·) ++ rest)
  | _ :: rest => fieldDesignators rest

def register (r : Registry) (span : Source.Span) (name : String)
    (bases keywords : List Source.Expr) (body : List Source.Stmt)
    (decorators : List Source.Expr) : CompileM (ComponentSource × Registry) := do
  let constant ← isConstant span decorators
  if !keywords.isEmpty then refuseAt span .componentKeywords
  checkBases r span bases
  let fields ← ofExcept (fieldDesignators body)
  let (type, r) ← ofRegistry (some (.ofSpan span))
    (r.registerComponent name Host.monoBehaviourName (body.flatMap methodNames) fields)
  return (⟨span, name, body, type, constant⟩, r)

def checkFieldTypes (r : Registry) : List Source.Stmt → CompileM Unit
  | [] => pure ()
  | .annAssign span (.name _ _ _) annot _ :: rest => do
    let _ ← annotType r span (some annot)
    checkFieldTypes r rest
  | _ :: rest => checkFieldTypes r rest

/-! ## Bodies of components -/

/-- Compiles a field. The host itself stores fields of serializable types. -/
def field (r : Registry) (env : TypeEnv) (span : Source.Span) (t annot : Source.Expr)
    (value : Option Source.Expr) : CompileM Ir.Field := do
  match t with
  | .name _ id _ =>
    let type ← annotType r span (some annot)
    let default ← exprOption r env value
    return {
      name := id
      typeName := type.map HostType.fullName
      default
      native := (type.map HostType.serializable).getD false }
  | _ => refuseAt span .fieldTarget

def groupBody (r : Registry) (env : TypeEnv) (type : HostType) :
    List Source.Stmt → CompileM (List MethodForm)
  | [] => pure []
  | .functionDef span name params body decorators returns :: rest => do
    let form ← method r env type ⟨span, name, params, body, decorators, returns⟩
    return form :: (← groupBody r env type rest)
  | .pass _ :: rest => groupBody r env type rest
  | s :: rest =>
    if s.isDocstring then groupBody r env type rest else refuseAt s.span .groupBody

/-- Compiles a group of methods for one interface, which its base or else its name gives. -/
def group (r : Registry) (env : TypeEnv) (type : HostType) (span : Source.Span) (name : String)
    (bases keywords : List Source.Expr) (body : List Source.Stmt)
    (decorators : List Source.Expr) : CompileM Declaration := do
  if !decorators.isEmpty || !keywords.isEmpty then refuseAt span .groupDecorators
  let interface ← match bases with
    | [] => pure name
    | [base] => ofExcept (base.expectDotted "interface")
    | _ => refuseAt span .groupBases
  let methods ← groupBody r env type body
  if methods.isEmpty then refuseAt span (.emptyGroup interface)
  return .group interface methods

/-- Compiles the body of a component into its fields and declarations. -/
def componentBody (r : Registry) (env : TypeEnv) (type : HostType) :
    List Source.Stmt → CompileM (List Ir.Field × List Declaration)
  | [] => pure ([], [])
  | .annAssign span t annot value :: rest => do
    let f ← field r env span t annot value
    let (fields, declarations) ← componentBody r env type rest
    return (f :: fields, declarations)
  | .functionDef span name params body decorators returns :: rest => do
    let form ← method r env type ⟨span, name, params, body, decorators, returns⟩
    let (fields, declarations) ← componentBody r env type rest
    return (fields, .message form :: declarations)
  | .classDef span name bases keywords body decorators :: rest => do
    let g ← group r env type span name bases keywords body decorators
    let (fields, declarations) ← componentBody r env type rest
    return (fields, g :: declarations)
  | .pass _ :: rest => componentBody r env type rest
  | s :: rest =>
    if s.isDocstring then componentBody r env type rest else refuseAt s.span .componentBody

def component (r : Registry) (known : Messages) (policy : DuplicatePolicy)
    (moduleName : Option String) (env : TypeEnv) (c : ComponentSource) : CompileM Ir.Component := do
  let place := some (Place.ofSpan c.span)
  let (fields, declarations) ← componentBody r env c.type c.body
  if declarations.isEmpty then warn ⟨.noMethods c.name, place⟩
  Definition.compile known policy place
    { name := c.name, fields, declarations, constant := c.constant, moduleName }

end Componentry.Compile
