import Componentry.Compile.Expr
import Componentry.Source.Binding

/-!
# Compiling statements

A statement is compiled in the environment that holds before it and gives the one that holds after
it. At the end of branches the environments are joined. A loop starts from an environment that
forgets every name its body may bind, so that what is known there holds in every round. A match on
types becomes a type dispatch, whose branches know the type of the captured name.
-/

namespace Componentry.Compile

open CompileM

/-- Compiles the target of an assignment. A plain name must be local. -/
def target (r : Registry) (env : TypeEnv) (span : Source.Span) : Source.Expr → CompileM Ir.Expr
  | .name _ id _ => do
    checkName span id
    if env.isLocal id then return .var id
    refuseAt span (.unknownVariable id)
  | .attr _ value member => do return .attr (← expr r env value) member
  | .subscript _ value index => do
    if index.hasForm .slice then refuseAt span .sliceAssignment
    let value ← expr r env value
    return .subscript value (← expr r env index)
  | _ => refuseAt span .assignmentTarget

/-- An assignment. A name that was not declared takes the static type of its value. -/
def assign (r : Registry) (env : TypeEnv) (span : Source.Span) (targets : List Source.Expr)
    (value : Source.Expr) : CompileM (List Ir.Stmt × TypeEnv) := do
  match targets with
  | [.name _ id _] =>
    let value ← expr r env value
    checkName span id
    let after := if env.isDeclared id then env else env.bind id (resolve r env value)
    return ([.assign (.var id) value], after)
  | [t] =>
    let value ← expr r env value
    return ([.assign (← target r env span t) value], env)
  | _ => refuseAt span .chainedAssignment

def annAssign (r : Registry) (env : TypeEnv) (span : Source.Span) (t annot : Source.Expr)
    (value : Option Source.Expr) : CompileM (List Ir.Stmt × TypeEnv) := do
  match t with
  | .name _ id _ =>
    checkName span id
    let type ← annotType r span (some annot)
    if env.isDeclared id && env.declaredType id != type then refuseAt span (.conflictingAnnot id)
    let value ← exprOption r env value
    let after := if type.isNone then env.bind id none else env.declare id type
    return (value.toList.map (.assign (.var id)), after)
  | _ => refuseAt span .annotatedTarget

/-- An augmented assignment. The new type of a plain name is not tracked. -/
def augAssign (r : Registry) (env : TypeEnv) (span : Source.Span) (t : Source.Expr)
    (op : Source.BinaryOp) (value : Source.Expr) : CompileM (List Ir.Stmt × TypeEnv) := do
  match op.sign? with
  | none => refuseAt span (.augmentedOperator op.name)
  | some sign =>
    let t ← target r env span t
    let value ← expr r env value
    let after := match t with
      | .var id => env.forget [id]
      | _ => env
    return ([.augAssign t sign value], after)

/-- What the heads of match cases say together. -/
structure Heads where
  capture : Option String := none
  /-- The types of the cases in order, without the default. -/
  designators : List String := []
  hasDefault : Bool := false

def typeHead (heads : Heads) (span : Source.Span) (pattern : Source.Pattern)
    (capture : Option String) : CompileM Heads := do
  match pattern with
  | .ofClass _ cls [] [] =>
    let designator ← ofExcept (cls.expectDotted "type")
    let heads := { heads with designators := heads.designators ++ [designator] }
    match capture, heads.capture with
    | none, _ => return heads
    | some id, none =>
      checkName span id
      return { heads with capture := some id }
    | some id, some first =>
      checkName span id
      if id ≠ first then refuseAt span (.captureNames first id)
      return heads
  | _ => refuseAt span .casePattern

/-- Adds the head of a case. Only the last case may be the default. -/
def caseHead (heads : Heads) (isLast : Bool) (pattern : Source.Pattern)
    (guard : Option Source.Expr) : CompileM Heads := do
  let span := pattern.span
  if guard.isSome then refuseAt span .caseGuard
  match pattern with
  | .capture _ _ => refuseAt span .captureAll
  | .wildcard _ =>
    if !isLast then refuseAt span .earlyDefault
    return { heads with hasDefault := true }
  | .bound _ inner id => typeHead heads span inner (some id)
  | p => typeHead heads span p none

def caseHeads (heads : Heads) : List Source.Case → CompileM Heads
  | [] => pure heads
  | .mk pattern guard _ :: rest => do
    let heads ← caseHead heads rest.isEmpty pattern guard
    caseHeads heads rest

/-- A match on types, given the builders of its cases in order. -/
def dispatch (r : Registry) (env : TypeEnv) (span : Source.Span) (subject : Source.Expr)
    (cases : List Source.Case) (builders : List (Branch CompileM (List Ir.Stmt))) :
    CompileM (List Ir.Stmt × TypeEnv) := do
  let value ← expr r env subject
  let heads ← caseHeads {} cases
  let bind ← match heads.capture with
    | some id => pure id
    | none => fresh "cast"
  let bindType := heads.capture.bind env.declaredType
  let default := if heads.hasDefault then builders.getLast? else none
  let plan ← ofRegistry (some (.ofSpan span))
    (planDispatch r env value bindType (heads.designators.zip builders))
  record plan.staticType
  let stmts ← Dispatch.lowerStmt bind env value default plan
  let after := env.forget (Source.boundInCases cases)
  return (stmts, if after.isDeclared bind then after else after.bind bind none)

mutual

/-- Compiles a statement. `inLoop` says whether a loop is around it. -/
def stmt (r : Registry) :
    Source.Stmt → Bool → TypeEnv → CompileM (List Ir.Stmt × TypeEnv)
  | .assign span targets value, _, env => assign r env span targets value
  | .annAssign span t annot value, _, env => annAssign r env span t annot value
  | .augAssign span t op value, _, env => augAssign r env span t op value
  | .expr span value, _, env => do
    if value.text?.isSome then return ([], env)
    match value with
    | .call .. => return ([.exprStmt (← expr r env value)], env)
    | _ => refuseAt span .notACall
  | .ifElse _ test body orelse, inLoop, env => do
    let test ← expr r env test
    let (body, bodyEnv) ← block r body inLoop env
    let (orelse, orelseEnv) ← block r orelse inLoop env
    return ([.ifElse test body orelse], env.merge [bodyEnv, orelseEnv])
  | .whileDo span test body orelse, _, env => do
    if !orelse.isEmpty then refuseAt span .whileElse
    let loopEnv := env.forget (Source.boundNames body)
    let test ← expr r loopEnv test
    let (body, bodyEnv) ← block r body true loopEnv
    return ([.whileDo test body], loopEnv.merge [loopEnv, bodyEnv])
  | .forIn span t iter body orelse, _, env => do
    if !orelse.isEmpty then refuseAt span .forElse
    match t with
    | .name _ id _ =>
      checkName span id
      let iter ← expr r env iter
      let loopEnv := env.forget (Source.boundNames body)
      let loopEnv := if loopEnv.isDeclared id then loopEnv else loopEnv.bind id none
      let (body, bodyEnv) ← block r body true loopEnv
      return ([.forIn id iter body], loopEnv.merge [loopEnv, bodyEnv])
    | _ => refuseAt span .forTarget
  | .matchOn span subject cases, inLoop, env =>
    dispatch r env span subject cases (builders r cases inLoop)
  | .ret _ value, _, env => do return ([.ret (← exprOption r env value)], env)
  | .brk span, inLoop, env =>
    if inLoop then pure ([.brk], env) else refuseAt span (.outsideLoop "break")
  | .cont span, inLoop, env =>
    if inLoop then pure ([.cont], env) else refuseAt span (.outsideLoop "continue")
  | .pass _, _, env => pure ([], env)
  | .functionDef span .., _, _ => refuseAt span (.statement "FunctionDef")
  | .classDef span .., _, _ => refuseAt span (.statement "ClassDef")
  | .form span f _, _, _ => refuseAt span (.statement f.name)

def block (r : Registry) :
    List Source.Stmt → Bool → TypeEnv → CompileM (List Ir.Stmt × TypeEnv)
  | [], _, env => pure ([], env)
  | s :: rest, inLoop, env => do
    let (first, env) ← stmt r s inLoop env
    let (rest, env) ← block r rest inLoop env
    return (first ++ rest, env)

def builders (r : Registry) :
    List Source.Case → Bool → List (Branch CompileM (List Ir.Stmt))
  | [], _ => []
  | .mk _ _ body :: rest, inLoop =>
    (fun env => do
      let (stmts, _) ← block r body inLoop env
      return stmts) :: builders r rest inLoop

end

end Componentry.Compile
