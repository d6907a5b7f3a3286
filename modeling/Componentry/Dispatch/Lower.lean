import Componentry.Dispatch.Plan

/-!
# Code for type dispatch

Lowers a plan to a chain of type tests. The subject is evaluated once into the bound name, unless it
already is that name. Branches are built on demand, in a monad of the caller's choice: the default
first, then the clauses in order, and of an exact plan only its clause.
-/

namespace Componentry

/-- Builds a branch in the environment where the bound name has the branch's type. -/
abbrev Branch (m : Type → Type) (β : Type) := TypeEnv → m β

namespace Dispatch

def test (bind : String) (t : HostType) : Ir.Expr := .isInstance (.var bind) t.fullName t.emitName

/-- Tests branches in order and ends with the default. -/
def stmtChain (bind : String) (default : List Ir.Stmt) :
    List (HostType × List Ir.Stmt) → List Ir.Stmt
  | [] => default
  | (t, body) :: rest => [.ifElse (test bind t) body (stmtChain bind default rest)]

/-- Tests branches in order and ends with the default. -/
def exprChain (bind : String) (default : Ir.Expr) : List (HostType × Ir.Expr) → Ir.Expr
  | [] => default
  | (t, body) :: rest => .ifExpr (test bind t) body (exprChain bind default rest)

variable {m : Type → Type} [Monad m]

def buildAll (bind : String) (env : TypeEnv) : List (Clause (Branch m β)) → m (List (HostType × β))
  | [] => pure []
  | c :: rest => do
    let body ← c.branch (env.bind bind c.type)
    let rest ← buildAll bind env rest
    return (c.type, body) :: rest

def buildDefault (bind : String) (env : TypeEnv) (static : Option HostType) (absent : β) :
    Option (Branch m β) → m β
  | none => pure absent
  | some branch => branch (env.bind bind static)

/-- The body of a dispatch, where `chain` joins the branches. -/
def body (bind : String) (env : TypeEnv) (absent : β) (chain : β → List (HostType × β) → β)
    (default : Option (Branch m β)) : Plan (Branch m β) → m β
  | .exact _ c => c.branch (env.bind bind c.type)
  | .fallback t => buildDefault bind env (some t) absent default
  | .pruned t cs => do
    let final ← buildDefault bind env (some t) absent default
    return chain final (← buildAll bind env cs)
  | .full cs => do
    let final ← buildDefault bind env none absent default
    return chain final (← buildAll bind env cs)

def lowerStmt (bind : String) (env : TypeEnv) (value : Ir.Expr)
    (default : Option (Branch m (List Ir.Stmt))) (plan : Plan (Branch m (List Ir.Stmt))) :
    m (List Ir.Stmt) := do
  let stmts ← body bind env [] (stmtChain bind) default plan
  return if value.isVar bind then stmts else .assign (.var bind) value :: stmts

/-- A dispatch as an expression. Without a default it ends in nothing. -/
def lowerExpr (bind : String) (env : TypeEnv) (value : Ir.Expr)
    (default : Option (Branch m Ir.Expr)) (plan : Plan (Branch m Ir.Expr)) : m Ir.Expr := do
  let e ← body bind env (.const .none) (exprChain bind) default plan
  return if value.isVar bind then e else .letIn [(bind, value)] e

end Dispatch

end Componentry
