import Componentry.Compile.Trace
import Componentry.Dispatch.Lower

/-!
# Component lookups

`get_component(obj, target)` asks a host object for a component by type or by name. What is known
about the two arguments decides how much is left to test when the program runs: nothing, the kind of
the target, the shape of the object, or both. Arguments that are no variables are evaluated once,
from left to right.
-/

namespace Componentry.Access

open CompileM

/-- Whether the static type of an expression answers a lookup by itself. -/
def isImplementer (r : Registry) (env : TypeEnv) (obj : Ir.Expr) : Bool :=
  match resolve r env obj with
  | none => false
  | some t => r.hasMethod t Host.accessMethod

/-- The kind of target that an expression is known to be. -/
def targetKind? (r : Registry) (env : TypeEnv) (target : Ir.Expr) : Option Host.TargetKind :=
  (resolve r env target).bind fun t =>
    Host.TargetKind.all.find? fun kind => (r.ancestors t).any (·.fullName == kind.fullName)

def directCall (obj target : Ir.Expr) : Ir.Expr := .call (.attr obj Host.accessMethod) [target]

/-- Dispatches on the type of a variable, over the given types. The branches are built by `build`
from the name that holds the subject. -/
def dispatchOn (r : Registry) (place : Option Place) (stem : String) (types : List String)
    (subject : String) (env : TypeEnv) (build : String → Branch CompileM Ir.Expr) :
    CompileM Ir.Expr := do
  let bind ← fresh stem
  let value : Ir.Expr := .var subject
  let plan ← ofRegistry place
    (planDispatch r env value none (types.map fun type => (type, build bind)))
  record plan.staticType
  Dispatch.lowerExpr bind env value none plan

def dispatchOnShape (r : Registry) (place : Option Place) (obj : String) (env : TypeEnv)
    (build : String → Branch CompileM Ir.Expr) : CompileM Ir.Expr :=
  dispatchOn r place "obj" (Host.ObjectShape.all.map (·.fullName)) obj env build

def dispatchOnTarget (r : Registry) (place : Option Place) (target : String) (env : TypeEnv)
    (build : String → Branch CompileM Ir.Expr) : CompileM Ir.Expr :=
  dispatchOn r place "target" (Host.TargetKind.all.map (·.fullName)) target env build

def onVariables (r : Registry) (place : Option Place) (obj target : String) (env : TypeEnv) :
    CompileM Ir.Expr :=
  let call (obj target : String) : Branch CompileM Ir.Expr := fun _ =>
    pure (directCall (.var obj) (.var target))
  match isImplementer r env (.var obj), targetKind? r env (.var target) with
  | true, some _ => call obj target env
  | true, none => dispatchOnTarget r place target env fun narrowed => call obj narrowed
  | false, some _ => dispatchOnShape r place obj env fun narrowed => call narrowed target
  | false, none => dispatchOnShape r place obj env fun narrowedObj shapeEnv =>
      dispatchOnTarget r place target shapeEnv fun narrowed => call narrowedObj narrowed

/-- Gives an argument a name: a variable keeps its own, anything else is bound to a new one. Its
type is the one it has in the outer environment. -/
def hoist (r : Registry) (outer : TypeEnv) (stem : String) (arg : Ir.Expr) (inner : TypeEnv) :
    CompileM (String × List (String × Ir.Expr) × TypeEnv) :=
  match arg with
  | .var name => pure (name, [], inner)
  | _ => do
    let name ← fresh stem
    return (name, [(name, arg)], inner.bind name (resolve r outer arg))

def specialize (r : Registry) (place : Option Place) (env : TypeEnv) (args : List Ir.Expr) :
    CompileM Ir.Expr := do
  match args with
  | [obj, target] =>
    let (objName, objBinding, inner) ← hoist r env "obj" obj env
    let (targetName, targetBinding, inner) ← hoist r env "target" target inner
    let call ← onVariables r place objName targetName inner
    match objBinding ++ targetBinding with
    | [] => return call
    | bindings => return .letIn bindings call
  | _ => refuse place .accessArity

end Componentry.Access
