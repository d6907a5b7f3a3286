import Componentry.Ir.Basic
import Componentry.Ir.Tree

/-!
# Compiled code as trees and back

`toTree` writes compiled code as tagged trees. The readers accept the trees that code can be
generated from, and otherwise report the first misfit in the order in which code would be generated.
-/

namespace Componentry.Ir

/-! ## Writing -/

def Literal.toTree : Literal → Tree
  | .none => .none
  | .bool b => .bool b
  | .int n => .int n
  | .float x => .float x
  | .str s => .str s

mutual

def Expr.toTree : Expr → Tree
  | .const value => .node .const [("value", value.toTree)]
  | .var name => .node .var [("name", .str name)]
  | .typeRef typeName codeName =>
    .node .typeRef [("type_name", .str typeName), ("py_name", .str codeName)]
  | .attr obj field => .node .attr [("obj", obj.toTree), ("field", .str field)]
  | .call func args => .node .call [("func", func.toTree), ("args", .list (treesOfExprs args))]
  | .unary op value => .node .unary [("op", .str op), ("value", value.toTree)]
  | .binary op left right =>
    .node .binary [("op", .str op), ("left", left.toTree), ("right", right.toTree)]
  | .ifExpr condition yes no =>
    .node .ifExpr [("condition", condition.toTree), ("then", yes.toTree), ("orelse", no.toTree)]
  | .isInstance value typeName codeName =>
    .node .isInstance
      [("value", value.toTree), ("type_name", .str typeName), ("py_name", .str codeName)]
  | .annotated value typeName =>
    .node .annotated [("value", value.toTree), ("type_name", .str typeName)]
  | .letIn bindings body =>
    .node .letIn [("bindings", .list (treesOfBindings bindings)), ("body", body.toTree)]
  | .list items => .node .list [("items", .list (treesOfExprs items))]
  | .tuple items => .node .tuple [("items", .list (treesOfExprs items))]
  | .dict keys values =>
    .node .dict [("keys", .list (treesOfExprs keys)), ("values", .list (treesOfExprs values))]
  | .subscript value index => .node .subscript [("value", value.toTree), ("index", index.toTree)]

def treesOfExprs : List Expr → List Tree
  | [] => []
  | e :: rest => e.toTree :: treesOfExprs rest

def treesOfBindings : List (String × Expr) → List Tree
  | [] => []
  | (name, e) :: rest => .tuple [.str name, e.toTree] :: treesOfBindings rest

end

def treeOfOption : Option Expr → Tree
  | none => .none
  | some e => e.toTree

mutual

def Stmt.toTree : Stmt → Tree
  | .assign target value => .node .assign [("target", target.toTree), ("value", value.toTree)]
  | .augAssign target op value =>
    .node .augAssign [("target", target.toTree), ("op", .str op), ("value", value.toTree)]
  | .exprStmt value => .node .exprStmt [("value", value.toTree)]
  | .ifElse condition body orelse =>
    .node .ifElse [("condition", condition.toTree), ("body", .list (treesOfBlock body)),
      ("orelse", .list (treesOfBlock orelse))]
  | .whileDo condition body =>
    .node .whileDo [("condition", condition.toTree), ("body", .list (treesOfBlock body))]
  | .forIn var iterable body =>
    .node .forIn [("var", .str var), ("iterable", iterable.toTree),
      ("body", .list (treesOfBlock body))]
  | .ret value => .node .ret [("value", treeOfOption value)]
  | .brk => .node .brk []
  | .cont => .node .cont []

def treesOfBlock : List Stmt → List Tree
  | [] => []
  | s :: rest => s.toTree :: treesOfBlock rest

end

def Param.toTree (p : Param) : Tree :=
  .node .param [("name", .str p.name), ("type_name", .ofText? p.typeName)]

def Field.toTree (f : Field) : Tree :=
  .node .field [("name", .str f.name), ("type_name", .ofText? f.typeName),
    ("default", treeOfOption f.default), ("mutable", .bool f.mutable), ("hidden", .bool f.hidden),
    ("native", .bool f.native)]

def Method.toTree (m : Method) : Tree :=
  .node .method [("name", .str m.name), ("params", .list (m.params.map Param.toTree)),
    ("body", .list (treesOfBlock m.body)), ("interface", .ofText? m.interface)]

def Implementation.toTree (i : Implementation) : Tree :=
  .node .implementation
    [("interface", .str i.interface), ("methods", .list (i.methods.map Method.toTree))]

def Component.toTree (c : Component) : Tree :=
  .node .component [("name", .str c.name), ("base", .str c.base),
    ("base_py_name", .str c.baseCodeName), ("fields", .list (c.fields.map Field.toTree)),
    ("implementations", .list (c.implementations.map Implementation.toTree)),
    ("constant", .bool c.constant)]

def Function.toTree (f : Function) : Tree :=
  .node .function [("name", .str f.name), ("params", .list (f.params.map Param.toTree)),
    ("body", .list (treesOfBlock f.body))]

def Global.toTree (g : Global) : Tree :=
  .node .global [("name", .str g.name), ("type_name", .ofText? g.typeName),
    ("value", treeOfOption g.value)]

def Module.isWritable (m : Module) : Bool :=
  m.globals.all (·.toTree.isWritable) && m.functions.all (·.toTree.isWritable)
    && m.components.all (·.toTree.isWritable)

/-! ## Reading -/

/-- What stands in a tree where code was expected. -/
inductive Misfit where
  | expression (kind : String)
  | statement (kind : String)
  | constant (text : String)
deriving DecidableEq, Repr

def Misfit.message : Misfit → String
  | .expression kind => "Unsupported expression: " ++ kind
  | .statement kind => "Unsupported statement: " ++ kind
  | .constant text => "Unsupported constant value: " ++ text

def Literal.ofTree? : Tree → Option Literal
  | .none => some .none
  | .bool b => some (.bool b)
  | .int n => some (.int n)
  | .float x => some (.float x)
  | .str s => some (.str s)
  | _ => Option.none

/-- The first misfit among keys and values that are looked at in turn. A key without a value or a
value without a key is not looked at, since no code is generated for it. -/
def inTurn : List (Option Misfit) → List (Option Misfit) → Option Misfit
  | key :: keys, value :: values => key <|> value <|> inTurn keys values
  | _, _ => none

mutual

/-- The first misfit in a tree that should hold an expression, in the order in which code is
generated for its parts. -/
def Tree.misfit? : Tree → Option Misfit
  | .node .const [(_, value)] =>
    if (Literal.ofTree? value).isSome then Option.none else some (.constant value.text)
  | .node .var [(_, .str _)] => Option.none
  | .node .typeRef [(_, .str _), (_, .str _)] => Option.none
  | .node .attr [(_, obj), (_, .str _)] => obj.misfit?
  | .node .call [(_, func), (_, .list args)] => (Tree.misfits args).findSome? id <|> func.misfit?
  | .node .unary [(_, .str _), (_, value)] => value.misfit?
  | .node .binary [(_, .str _), (_, left), (_, right)] => left.misfit? <|> right.misfit?
  | .node .ifExpr [(_, condition), (_, yes), (_, no)] =>
    yes.misfit? <|> condition.misfit? <|> no.misfit?
  | .node .isInstance [(_, value), (_, .str _), (_, .str _)] => value.misfit?
  | .node .annotated [(_, value), (_, .str _)] => value.misfit?
  | .node .letIn [(_, .list bindings), (_, body)] => Tree.bindingMisfit? bindings <|> body.misfit?
  | .node .list [(_, .list items)] => (Tree.misfits items).findSome? id
  | .node .tuple [(_, .list items)] => (Tree.misfits items).findSome? id
  | .node .dict [(_, .list keys), (_, .list values)] =>
    inTurn (Tree.misfits keys) (Tree.misfits values)
  | .node .subscript [(_, value), (_, index)] => value.misfit? <|> index.misfit?
  | other => some (.expression other.kindName)

def Tree.misfits : List Tree → List (Option Misfit)
  | [] => []
  | t :: rest => t.misfit? :: Tree.misfits rest

def Tree.bindingMisfit? : List Tree → Option Misfit
  | [] => Option.none
  | .tuple [.str _, t] :: rest => t.misfit? <|> Tree.bindingMisfit? rest
  | .list [.str _, t] :: rest => t.misfit? <|> Tree.bindingMisfit? rest
  | _ :: rest => Tree.bindingMisfit? rest

end

mutual

/-- The expression in a tree. What is no code becomes a list of the code inside it, which has no
static type and refers to the same host types. -/
def Expr.outline : Tree → Expr
  | .node .const [(_, value)] =>
    match Literal.ofTree? value with
    | some l => .const l
    | Option.none => .list [Expr.outline value]
  | .node .var [(_, .str name)] => .var name
  | .node .typeRef [(_, .str typeName), (_, .str codeName)] => .typeRef typeName codeName
  | .node .attr [(_, obj), (_, .str field)] => .attr (Expr.outline obj) field
  | .node .call [(_, func), (_, .list args)] => .call (Expr.outline func) (outlines args)
  | .node .unary [(_, .str op), (_, value)] => .unary op (Expr.outline value)
  | .node .binary [(_, .str op), (_, left), (_, right)] =>
    .binary op (Expr.outline left) (Expr.outline right)
  | .node .ifExpr [(_, condition), (_, yes), (_, no)] =>
    .ifExpr (Expr.outline condition) (Expr.outline yes) (Expr.outline no)
  | .node .isInstance [(_, value), (_, .str typeName), (_, .str codeName)] =>
    .isInstance (Expr.outline value) typeName codeName
  | .node .annotated [(_, value), (_, .str typeName)] => .annotated (Expr.outline value) typeName
  | .node .letIn [(_, .list bindings), (_, body)] =>
    .letIn (outlinesOfBindings bindings) (Expr.outline body)
  | .node .list [(_, .list items)] => .list (outlines items)
  | .node .tuple [(_, .list items)] => .tuple (outlines items)
  | .node .dict [(_, .list keys), (_, .list values)] => .dict (outlines keys) (outlines values)
  | .node .subscript [(_, value), (_, index)] =>
    .subscript (Expr.outline value) (Expr.outline index)
  | .node _ fields => .list (outlinesOfFields fields)
  | .list items => .list (outlines items)
  | .tuple items => .list (outlines items)
  | _ => .const .none

def outlines : List Tree → List Expr
  | [] => []
  | t :: rest => Expr.outline t :: outlines rest

def outlinesOfFields : List (String × Tree) → List Expr
  | [] => []
  | (_, t) :: rest => Expr.outline t :: outlinesOfFields rest

def outlinesOfBindings : List Tree → List (String × Expr)
  | [] => []
  | .tuple [.str name, t] :: rest => (name, Expr.outline t) :: outlinesOfBindings rest
  | .list [.str name, t] :: rest => (name, Expr.outline t) :: outlinesOfBindings rest
  | _ :: rest => outlinesOfBindings rest

end

def Expr.ofTree (t : Tree) : Except Misfit Expr :=
  match t.misfit? with
  | some e => .error e
  | none => .ok (Expr.outline t)

def optionOfTree : Tree → Except Misfit (Option Expr)
  | .none => .ok none
  | t => do
    let e ← Expr.ofTree t
    .ok (some e)

mutual

def Stmt.ofTree : Tree → Except Misfit Stmt
  | .node .assign [(_, target), (_, value)] => do
    let target ← Expr.ofTree target
    let value ← Expr.ofTree value
    .ok (.assign target value)
  | .node .augAssign [(_, target), (_, .str op), (_, value)] => do
    let target ← Expr.ofTree target
    let value ← Expr.ofTree value
    .ok (.augAssign target op value)
  | .node .exprStmt [(_, value)] => do
    let value ← Expr.ofTree value
    .ok (.exprStmt value)
  | .node .ifElse [(_, condition), (_, .list body), (_, .list orelse)] => do
    let condition ← Expr.ofTree condition
    let body ← blockOfTrees body
    let orelse ← blockOfTrees orelse
    .ok (.ifElse condition body orelse)
  | .node .whileDo [(_, condition), (_, .list body)] => do
    let condition ← Expr.ofTree condition
    let body ← blockOfTrees body
    .ok (.whileDo condition body)
  | .node .forIn [(_, .str var), (_, iterable), (_, .list body)] => do
    let iterable ← Expr.ofTree iterable
    let body ← blockOfTrees body
    .ok (.forIn var iterable body)
  | .node .ret [(_, value)] => do
    let value ← optionOfTree value
    .ok (.ret value)
  | .node .brk [] => .ok .brk
  | .node .cont [] => .ok .cont
  | other => .error (.statement other.kindName)

def blockOfTrees : List Tree → Except Misfit (List Stmt)
  | [] => .ok []
  | t :: rest => do
    let s ← Stmt.ofTree t
    let ss ← blockOfTrees rest
    .ok (s :: ss)

end

/-- The text of a field that may be absent. -/
def textOfTree : Tree → Option String
  | .str s => some s
  | _ => none

def Param.ofTree : Tree → Except Misfit Param
  | .node .param [(_, .str name), (_, typeName)] => .ok ⟨name, textOfTree typeName⟩
  | other => .error (.statement other.kindName)

def Field.ofTree : Tree → Except Misfit Field
  | .node .field [(_, .str name), (_, typeName), (_, default), (_, .bool mutable),
      (_, .bool hidden), (_, .bool native)] => do
    let default ← optionOfTree default
    .ok { name, typeName := textOfTree typeName, default, mutable, hidden, native }
  | other => .error (.statement other.kindName)

def Method.ofTree : Tree → Except Misfit Method
  | .node .method [(_, .str name), (_, .list params), (_, .list body), (_, interface)] => do
    let params ← params.mapM Param.ofTree
    let body ← blockOfTrees body
    .ok { name, params, body, interface := textOfTree interface }
  | other => .error (.statement other.kindName)

def Implementation.ofTree : Tree → Except Misfit Implementation
  | .node .implementation [(_, .str interface), (_, .list methods)] => do
    let methods ← methods.mapM Method.ofTree
    .ok { interface, methods }
  | other => .error (.statement other.kindName)

def Component.ofTree : Tree → Except Misfit Component
  | .node .component [(_, .str name), (_, .str base), (_, .str baseCodeName), (_, .list fields),
      (_, .list implementations), (_, .bool constant)] => do
    let fields ← fields.mapM Field.ofTree
    let implementations ← implementations.mapM Implementation.ofTree
    .ok { name, base, baseCodeName, fields, implementations, constant }
  | other => .error (.statement other.kindName)

def Function.ofTree : Tree → Except Misfit Function
  | .node .function [(_, .str name), (_, .list params), (_, .list body)] => do
    let params ← params.mapM Param.ofTree
    let body ← blockOfTrees body
    .ok { name, params, body }
  | other => .error (.statement other.kindName)

def Global.ofTree : Tree → Except Misfit Global
  | .node .global [(_, .str name), (_, typeName), (_, value)] => do
    let value ← optionOfTree value
    .ok { name, typeName := textOfTree typeName, value }
  | other => .error (.statement other.kindName)

end Componentry.Ir
