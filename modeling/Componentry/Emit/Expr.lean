import Componentry.Decimal.Written
import Componentry.Ir.Basic
import Componentry.Ir.Tree

/-!
# Text of expressions

Every operator is written with brackets around it, so that no precedence matters. A constant that
owns an attribute is bracketed too.
-/

namespace Componentry.Emit

open Ir

/-- The text of a constant. Doubles that have no literal are converted from their names. -/
def literal : Literal → String
  | .none => "None"
  | .bool b => Tree.boolWord b
  | .int n => Json.intText n
  | .float (.finite negative mantissa exponent) => (Binary64.finite negative mantissa exponent).text
  | .float x => "float('" ++ x.text ++ "')"
  | .str s => Text.quote s

def commas (items : List String) : String := Text.joinWith ", " items

def isConst : Expr → Bool
  | .const _ => true
  | _ => false

def unary (op value : String) : String :=
  if op = "not" then "(not " ++ value ++ ")" else "(" ++ op ++ value ++ ")"

mutual

def expr : Expr → String
  | .const value => literal value
  | .var name => name
  | .typeRef _ codeName => codeName
  | .attr obj field =>
    (if isConst obj then "(" ++ expr obj ++ ")" else expr obj) ++ "." ++ field
  | .call func args => expr func ++ "(" ++ commas (exprs args) ++ ")"
  | .unary op value => unary op (expr value)
  | .binary op left right => "(" ++ expr left ++ " " ++ op ++ " " ++ expr right ++ ")"
  | .ifExpr condition yes no =>
    "(" ++ expr yes ++ " if " ++ expr condition ++ " else " ++ expr no ++ ")"
  | .isInstance value _ codeName => "isinstance(" ++ expr value ++ ", " ++ codeName ++ ")"
  | .annotated value _ => expr value
  | .letIn [] body => expr body
  | .letIn bindings body =>
    "(" ++ commas (bindingTexts bindings ++ [expr body]) ++ ")[-1]"
  | .list items => "[" ++ commas (exprs items) ++ "]"
  | .tuple items => Tree.encloseItems (exprs items)
  | .dict keys values =>
    "\x7b" ++ commas (List.zipWith (fun k v => k ++ ": " ++ v) (exprs keys) (exprs values)) ++
      "\x7d"
  | .subscript value index => expr value ++ "[" ++ expr index ++ "]"

def exprs : List Expr → List String
  | [] => []
  | e :: rest => expr e :: exprs rest

/-- The texts of bindings, which are evaluated from left to right. -/
def bindingTexts : List (String × Expr) → List String
  | [] => []
  | (name, e) :: rest => ("(" ++ name ++ " := " ++ expr e ++ ")") :: bindingTexts rest

end

end Componentry.Emit
