import Componentry.Emit.Expr

/-!
# Lines of statements

A statement becomes lines, each indented by its depth. A conditional statement that is all there is
in the other branch of a conditional statement continues it as a further condition.
-/

namespace Componentry.Emit

open Ir

def indentUnit : String := "    "

def pad : Nat → String
  | 0 => ""
  | n + 1 => indentUnit ++ pad n

/-- The lines of a block, which must not be empty. -/
def orPass (indent : Nat) (lines : List String) : List String :=
  if lines.isEmpty then [pad indent ++ "pass"] else lines

mutual

def stmt (indent : Nat) : Stmt → List String
  | .assign target value => [pad indent ++ expr target ++ " = " ++ expr value]
  | .augAssign target op value => [pad indent ++ expr target ++ " " ++ op ++ "= " ++ expr value]
  | .exprStmt value => [pad indent ++ expr value]
  | .ifElse condition body orelse =>
    (pad indent ++ "if " ++ expr condition ++ ":") ::
      orPass (indent + 1) (stmts (indent + 1) body) ++ otherwise indent orelse
  | .whileDo condition body =>
    (pad indent ++ "while " ++ expr condition ++ ":") ::
      orPass (indent + 1) (stmts (indent + 1) body)
  | .forIn var iterable body =>
    (pad indent ++ "for " ++ var ++ " in " ++ expr iterable ++ ":") ::
      orPass (indent + 1) (stmts (indent + 1) body)
  | .ret none => [pad indent ++ "return"]
  | .ret (some value) => [pad indent ++ "return " ++ expr value]
  | .brk => [pad indent ++ "break"]
  | .cont => [pad indent ++ "continue"]

def stmts (indent : Nat) : List Stmt → List String
  | [] => []
  | s :: rest => stmt indent s ++ stmts indent rest

/-- The lines of the other branch of a conditional statement. -/
def otherwise (indent : Nat) : List Stmt → List String
  | [] => []
  | [.ifElse condition body orelse] =>
    (pad indent ++ "elif " ++ expr condition ++ ":") ::
      orPass (indent + 1) (stmts (indent + 1) body) ++ otherwise indent orelse
  | s :: rest =>
    (pad indent ++ "else:") :: (stmt (indent + 1) s ++ stmts (indent + 1) rest)

end

/-- A line that stands some steps less deep, or at the margin if it is not that deep. -/
def outdent : Nat → List Char → List Char
  | n + 1, ' ' :: ' ' :: ' ' :: ' ' :: line => outdent n line
  | _, line => line

/-- The lines of a statement at a depth that may be negative. Lines without depth stand at the
margin. -/
def stmtAt (indent : Int) (s : Stmt) : List String :=
  if 0 ≤ indent then stmt indent.toNat s
  else (stmt 0 s).map fun line => String.ofList (outdent (-indent).toNat line.toList)

def block (indent : Nat) (body : List Stmt) : List String := orPass indent (stmts indent body)

end Componentry.Emit
