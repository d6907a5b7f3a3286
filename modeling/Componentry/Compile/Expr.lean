import Componentry.Dispatch.Access
import Componentry.Source.Tree

/-!
# Compiling expressions

Names must be known: local names, module-level values and helpers, then host types, then a few
built-in functions. Two calls are constructs of their own: a component lookup is specialized by what
is known about its arguments, and a cast states the static type of its value.
-/

namespace Componentry

namespace Source.Expr

/-- The dotted name of an expression that must be one. -/
def expectDotted (label : String) (e : Expr) : Except Diagnostic String :=
  match e.dotted? with
  | some s => .ok s
  | none => .error ⟨.expectedName label, some (.ofSpan e.span)⟩

/-- The type designator that an annotation writes, as a name or as a string. `Any` leaves the type
open. -/
def designator (e : Expr) : Except Diagnostic (Option String) := do
  let s ← match e.text? with
    | some s => .ok s
    | none => e.expectDotted "type"
  return if s = "Any" || s = "typing.Any" then none else some s

end Source.Expr

namespace Compile

open CompileM

def builtinFunctions : List String :=
  ["abs", "bool", "float", "int", "isinstance", "len", "list", "max", "min", "print", "range",
    "round", "str"]

def isGenerated (name : String) : Bool := generatedStart.toList.isPrefixOf name.toList

def checkName (span : Source.Span) (name : String) : CompileM Unit :=
  if isGenerated name then refuseAt span (.generatedName name)
  else if name = accessorName || name = castName then refuseAt span (.constructName name)
  else pure ()

/-- The type that an annotation names; `none` where it leaves the type open or is absent. -/
def annotType (r : Registry) (span : Source.Span) (annot : Option Source.Expr) :
    CompileM (Option HostType) := do
  match annot with
  | none => return none
  | some e =>
    match ← ofExcept e.designator with
    | none => return none
    | some name => return some (← ofRegistry (some (.ofSpan span)) (r.ensure name))

def typeRef (t : HostType) : Ir.Expr := .typeRef t.fullName t.emitName

def name (r : Registry) (env : TypeEnv) (span : Source.Span) (id : String) : CompileM Ir.Expr :=
  if isGenerated id then refuseAt span (.generatedName id)
  else if env.knows id then pure (.var id)
  else
    match r.lookup id with
    | some t => pure (typeRef t)
    | none =>
      if builtinFunctions.contains id then pure (.var id) else refuseAt span (.unknownVariable id)

/-- The host type that a dotted expression names, unless its first name is known as a value. -/
def hostType? (r : Registry) (env : TypeEnv) (e : Source.Expr) : Option HostType :=
  match e.dotted?, e.root? with
  | some dotted, some root => if env.knows root then none else r.lookup dotted
  | _, _ => none

inductive Construct where
  | access
  | cast
deriving DecidableEq, Repr

/-- The construct that a called expression names, unless the name is known as a value. -/
def construct? (env : TypeEnv) : Source.Expr → Option Construct
  | .name _ id _ =>
    if env.knows id then none
    else if id = accessorName then some .access
    else if id = castName then some .cast
    else none
  | _ => none

/-- The arguments of a call must be plain. -/
def checkArguments (span : Source.Span) (args keywords : List Source.Expr) : CompileM Unit :=
  if !keywords.isEmpty then refuseAt span .keywordArguments
  else if args.any (·.hasForm .starred) then refuseAt span .starArguments
  else pure ()

def joinLeft (op : String) : List Ir.Expr → Ir.Expr
  | [] => .const .none
  | first :: rest => rest.foldl (.binary op) first

mutual

def expr (r : Registry) (env : TypeEnv) : Source.Expr → CompileM Ir.Expr
  | .constant span value =>
    match value with
    | .literal v => pure (.const v)
    | _ => refuseAt span .constantKind
  | .name span id _ => name r env span id
  | .attr span value member =>
    match hostType? r env (.attr span value member) with
    | some t => pure (typeRef t)
    | none => do return .attr (← expr r env value) member
  | .call span func args keywords => do
    checkArguments span args keywords
    match construct? env func with
    | some .access => Access.specialize r (some (.ofSpan span)) env (← exprs r env args)
    | some .cast =>
      match args with
      | [type, value] =>
        let typeName ← ofExcept (type.expectDotted "type")
        let t ← ofRegistry (some (.ofSpan span)) (r.ensure typeName)
        return .annotated (← expr r env value) t.fullName
      | _ => refuseAt span .castArity
    | none => do
      let func ← expr r env func
      return .call func (← exprs r env args)
  | .list _ items => do return .list (← exprs r env items)
  | .tuple _ items => do return .tuple (← exprs r env items)
  | .dict _ keys values => do
    let keys ← exprs r env keys
    return .dict keys (← exprs r env values)
  | .subscript span value index => do
    if index.hasForm .slice then refuseAt span .slice
    let value ← expr r env value
    return .subscript value (← expr r env index)
  | .binary span left op right => do
    match op.sign? with
    | none => refuseAt span (.binaryOperator op.name)
    | some sign =>
      let left ← expr r env left
      return .binary sign left (← expr r env right)
  | .connective _ op values => do return joinLeft op.sign (← exprs r env values)
  | .unary span op operand => do
    match op.sign? with
    | none => refuseAt span (.unaryOperator op.name)
    | some sign => return .unary sign (← expr r env operand)
  | .compare span left ops comparators => do
    match ops, comparators with
    | [op], [right] =>
      let left ← expr r env left
      return .binary op.sign left (← expr r env right)
    | _, _ => refuseAt span .chainedComparison
  | .ifExpr _ test body orelse => do
    let test ← expr r env test
    let body ← expr r env body
    return .ifExpr test body (← expr r env orelse)
  | .form span .unpackingDict _ => refuseAt span .dictUnpacking
  | .form span f _ => refuseAt span (.expression f.name)

def exprs (r : Registry) (env : TypeEnv) : List Source.Expr → CompileM (List Ir.Expr)
  | [] => pure []
  | e :: rest => do
    let e ← expr r env e
    return e :: (← exprs r env rest)

end

def exprOption (r : Registry) (env : TypeEnv) : Option Source.Expr → CompileM (Option Ir.Expr)
  | none => pure none
  | some e => do return some (← expr r env e)

end Compile

end Componentry
