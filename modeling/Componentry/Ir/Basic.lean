import Componentry.Decimal.Binary64

/-!
# Compiled components

The form that sources are compiled to and that code is generated from: expressions and statements
without type annotations of their own, and the declarations of a module. Types appear by full name
(for static reasoning) and by the name that generated code uses.
-/

namespace Componentry.Ir

inductive Literal where
  | none
  | bool (value : Bool)
  | int (value : Int)
  | float (value : Binary64)
  | str (value : String)
deriving DecidableEq, Repr

inductive Expr where
  | const (value : Literal)
  | var (name : String)
  /-- A host type used as a value. -/
  | typeRef (typeName codeName : String)
  | attr (obj : Expr) (field : String)
  | call (func : Expr) (args : List Expr)
  | unary (op : String) (value : Expr)
  | binary (op : String) (left right : Expr)
  | ifExpr (condition yes no : Expr)
  | isInstance (value : Expr) (typeName codeName : String)
  /-- A static type attached to an expression; it has no effect at run time. -/
  | annotated (value : Expr) (typeName : String)
  /-- Evaluates each binding once, from left to right, and then the body. -/
  | letIn (bindings : List (String × Expr)) (body : Expr)
  | list (items : List Expr)
  | tuple (items : List Expr)
  | dict (keys values : List Expr)
  | subscript (value index : Expr)
deriving Repr

def Expr.isVar (e : Expr) (name : String) : Bool :=
  match e with
  | .var n => n == name
  | _ => false

inductive Stmt where
  | assign (target value : Expr)
  | augAssign (target : Expr) (op : String) (value : Expr)
  | exprStmt (value : Expr)
  | ifElse (condition : Expr) (body orelse : List Stmt)
  | whileDo (condition : Expr) (body : List Stmt)
  | forIn (var : String) (iterable : Expr) (body : List Stmt)
  | ret (value : Option Expr)
  | brk
  | cont
deriving Repr

/-- A parameter with the full name of its declared type. -/
structure Param where
  name : String
  typeName : Option String := none
deriving DecidableEq, Repr

/-- A field of a component. `native` fields are stored by the host itself, `hidden` ones are not
shown to authors. -/
structure Field where
  name : String
  typeName : Option String := none
  default : Option Expr := none
  mutable : Bool := true
  hidden : Bool := false
  native : Bool := false
deriving Repr

/-- A method with the interface it implements. -/
structure Method where
  name : String
  params : List Param
  body : List Stmt
  interface : Option String := none
deriving Repr

/-- The methods of a component that implement one interface. -/
structure Implementation where
  interface : String
  methods : List Method
deriving Repr

/-- A component. A constant one is defined only once in a host process. -/
structure Component where
  name : String
  base : String
  baseCodeName : String
  fields : List Field
  implementations : List Implementation
  constant : Bool := true
deriving Repr

structure Function where
  name : String
  params : List Param
  body : List Stmt
deriving Repr

structure Global where
  name : String
  typeName : Option String := none
  value : Option Expr := none
deriving Repr

structure Module where
  globals : List Global
  functions : List Function
  components : List Component
  moduleName : Option String := none
deriving Repr

end Componentry.Ir
