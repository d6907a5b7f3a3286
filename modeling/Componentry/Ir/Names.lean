import Componentry.Ir.Basic

/-!
# Names in compiled code

The variables that compiled code reads or writes, and the host types that it refers to by their code
names. Both are collected in order, with repetitions.
-/

namespace Componentry.Ir

/-! ## Variables -/

mutual

/-- Variables of an expression. The names that a `letIn` binds are not variables of it. -/
def Expr.vars : Expr → List String
  | .const _ => []
  | .var name => [name]
  | .typeRef _ _ => []
  | .attr obj _ => obj.vars
  | .call func args => func.vars ++ varsOfList args
  | .unary _ value => value.vars
  | .binary _ left right => left.vars ++ right.vars
  | .ifExpr condition yes no => condition.vars ++ yes.vars ++ no.vars
  | .isInstance value _ _ => value.vars
  | .annotated value _ => value.vars
  | .letIn bindings body => varsOfBindings bindings ++ body.vars
  | .list items => varsOfList items
  | .tuple items => varsOfList items
  | .dict keys values => varsOfList keys ++ varsOfList values
  | .subscript value index => value.vars ++ index.vars

def varsOfList : List Expr → List String
  | [] => []
  | e :: rest => e.vars ++ varsOfList rest

def varsOfBindings : List (String × Expr) → List String
  | [] => []
  | (_, e) :: rest => e.vars ++ varsOfBindings rest

end

def varsOfOption : Option Expr → List String
  | none => []
  | some e => e.vars

mutual

/-- Variables of a statement. The name a loop runs over is not a variable of it. -/
def Stmt.vars : Stmt → List String
  | .assign target value => target.vars ++ value.vars
  | .augAssign target _ value => target.vars ++ value.vars
  | .exprStmt value => value.vars
  | .ifElse condition body orelse => condition.vars ++ varsOfBlock body ++ varsOfBlock orelse
  | .whileDo condition body => condition.vars ++ varsOfBlock body
  | .forIn _ iterable body => iterable.vars ++ varsOfBlock body
  | .ret value => varsOfOption value
  | .brk => []
  | .cont => []

def varsOfBlock : List Stmt → List String
  | [] => []
  | s :: rest => s.vars ++ varsOfBlock rest

end

def Component.vars (c : Component) : List String :=
  c.fields.flatMap (fun f => varsOfOption f.default) ++
    c.implementations.flatMap fun i => i.methods.flatMap fun m => varsOfBlock m.body

def Module.vars (m : Module) : List String :=
  m.functions.flatMap (fun f => varsOfBlock f.body) ++ m.components.flatMap Component.vars ++
    m.globals.flatMap fun g => varsOfOption g.value

/-! ## Host types -/

mutual

/-- Code names of the host types that an expression refers to or tests against. -/
def Expr.hostNames : Expr → List String
  | .const _ => []
  | .var _ => []
  | .typeRef _ codeName => [codeName]
  | .attr obj _ => obj.hostNames
  | .call func args => func.hostNames ++ hostNamesOfList args
  | .unary _ value => value.hostNames
  | .binary _ left right => left.hostNames ++ right.hostNames
  | .ifExpr condition yes no => condition.hostNames ++ yes.hostNames ++ no.hostNames
  | .isInstance value _ codeName => codeName :: value.hostNames
  | .annotated value _ => value.hostNames
  | .letIn bindings body => hostNamesOfBindings bindings ++ body.hostNames
  | .list items => hostNamesOfList items
  | .tuple items => hostNamesOfList items
  | .dict keys values => hostNamesOfList keys ++ hostNamesOfList values
  | .subscript value index => value.hostNames ++ index.hostNames

def hostNamesOfList : List Expr → List String
  | [] => []
  | e :: rest => e.hostNames ++ hostNamesOfList rest

def hostNamesOfBindings : List (String × Expr) → List String
  | [] => []
  | (_, e) :: rest => e.hostNames ++ hostNamesOfBindings rest

end

def hostNamesOfOption : Option Expr → List String
  | none => []
  | some e => e.hostNames

mutual

def Stmt.hostNames : Stmt → List String
  | .assign target value => target.hostNames ++ value.hostNames
  | .augAssign target _ value => target.hostNames ++ value.hostNames
  | .exprStmt value => value.hostNames
  | .ifElse condition body orelse =>
    condition.hostNames ++ hostNamesOfBlock body ++ hostNamesOfBlock orelse
  | .whileDo condition body => condition.hostNames ++ hostNamesOfBlock body
  | .forIn _ iterable body => iterable.hostNames ++ hostNamesOfBlock body
  | .ret value => hostNamesOfOption value
  | .brk => []
  | .cont => []

def hostNamesOfBlock : List Stmt → List String
  | [] => []
  | s :: rest => s.hostNames ++ hostNamesOfBlock rest

end

def Component.hostNames (c : Component) : List String :=
  c.fields.flatMap (fun f => hostNamesOfOption f.default) ++
    c.implementations.flatMap fun i => i.methods.flatMap fun m => hostNamesOfBlock m.body

def Module.hostNames (m : Module) : List String :=
  m.components.map Component.baseCodeName ++
    m.globals.flatMap (fun g => hostNamesOfOption g.value) ++
    m.functions.flatMap (fun f => hostNamesOfBlock f.body) ++
    m.components.flatMap Component.hostNames

end Componentry.Ir
