import Componentry.Ir.Basic
import Componentry.Source.Position

/-!
# Source trees

The trees of component sources, which use the grammar of Python 3.11. Constructs that components may
use have constructors of their own. Every other construct of the grammar is kept as a labelled form
with its parts in grammar order, so that it can be named in a diagnostic and searched for the names
it binds.
-/

namespace Componentry.Source

/-! ## Operators -/

inductive BinaryOp where
  | add | sub | mult | matMult | div | mod | pow | lShift | rShift | bitOr | bitXor | bitAnd
  | floorDiv
deriving DecidableEq, Repr

def BinaryOp.name : BinaryOp → String
  | .add => "Add"
  | .sub => "Sub"
  | .mult => "Mult"
  | .matMult => "MatMult"
  | .div => "Div"
  | .mod => "Mod"
  | .pow => "Pow"
  | .lShift => "LShift"
  | .rShift => "RShift"
  | .bitOr => "BitOr"
  | .bitXor => "BitXor"
  | .bitAnd => "BitAnd"
  | .floorDiv => "FloorDiv"

def BinaryOp.sign? : BinaryOp → Option String
  | .add => some "+"
  | .sub => some "-"
  | .mult => some "*"
  | .div => some "/"
  | .floorDiv => some "//"
  | .mod => some "%"
  | .pow => some "**"
  | _ => none

inductive BoolOp where
  | and
  | or
deriving DecidableEq, Repr

def BoolOp.sign : BoolOp → String
  | .and => "and"
  | .or => "or"

inductive UnaryOp where
  | invert | not | plus | minus
deriving DecidableEq, Repr

def UnaryOp.name : UnaryOp → String
  | .invert => "Invert"
  | .not => "Not"
  | .plus => "UAdd"
  | .minus => "USub"

def UnaryOp.sign? : UnaryOp → Option String
  | .invert => none
  | .not => some "not"
  | .plus => some "+"
  | .minus => some "-"

inductive CompareOp where
  | eq | notEq | lt | ltE | gt | gtE | is | isNot | isIn | notIn
deriving DecidableEq, Repr

def CompareOp.sign : CompareOp → String
  | .eq => "=="
  | .notEq => "!="
  | .lt => "<"
  | .ltE => "<="
  | .gt => ">"
  | .gtE => ">="
  | .is => "is"
  | .isNot => "is not"
  | .isIn => "in"
  | .notIn => "not in"

/-! ## Expressions -/

/-- A constant of the grammar. Only literals have a value that components may use. -/
inductive Constant where
  | literal (value : Ir.Literal)
  | bytes
  | ellipsis
  | imaginary
deriving DecidableEq, Repr

/-- Whether a name is read, bound or deleted. -/
inductive NameUse where
  | load | store | delete
deriving DecidableEq, Repr

/-- Forms of expression that components may not use, and the inner nodes of the grammar that carry
expressions. -/
inductive ExprForm where
  | namedExpr | lambda | unpackingDict | set | listComp | setComp | dictComp | generatorExp | await
  | yield | yieldFrom | formattedValue | joinedStr | starred | slice
  | comprehension | parameters | parameter | keyword
deriving DecidableEq, Repr

def ExprForm.name : ExprForm → String
  | .namedExpr => "NamedExpr"
  | .lambda => "Lambda"
  | .unpackingDict => "Dict"
  | .set => "Set"
  | .listComp => "ListComp"
  | .setComp => "SetComp"
  | .dictComp => "DictComp"
  | .generatorExp => "GeneratorExp"
  | .await => "Await"
  | .yield => "Yield"
  | .yieldFrom => "YieldFrom"
  | .formattedValue => "FormattedValue"
  | .joinedStr => "JoinedStr"
  | .starred => "Starred"
  | .slice => "Slice"
  | .comprehension => "comprehension"
  | .parameters => "arguments"
  | .parameter => "arg"
  | .keyword => "keyword"

inductive Expr where
  | constant (span : Span) (value : Constant)
  | name (span : Span) (id : String) (use : NameUse)
  | attr (span : Span) (value : Expr) (member : String)
  | call (span : Span) (func : Expr) (args keywords : List Expr)
  | list (span : Span) (items : List Expr)
  | tuple (span : Span) (items : List Expr)
  | dict (span : Span) (keys values : List Expr)
  | subscript (span : Span) (value index : Expr)
  | binary (span : Span) (left : Expr) (op : BinaryOp) (right : Expr)
  | connective (span : Span) (op : BoolOp) (values : List Expr)
  | unary (span : Span) (op : UnaryOp) (operand : Expr)
  | compare (span : Span) (left : Expr) (ops : List CompareOp) (comparators : List Expr)
  | ifExpr (span : Span) (test body orelse : Expr)
  | form (span : Span) (form : ExprForm) (parts : List Expr)
deriving Repr

namespace Expr

def span : Expr → Span
  | constant span _ => span
  | name span _ _ => span
  | attr span _ _ => span
  | call span _ _ _ => span
  | list span _ => span
  | tuple span _ => span
  | dict span _ _ => span
  | subscript span _ _ => span
  | binary span _ _ _ => span
  | connective span _ _ => span
  | unary span _ _ => span
  | compare span _ _ _ => span
  | ifExpr span _ _ _ => span
  | form span _ _ => span

def hasForm (e : Expr) (f : ExprForm) : Bool :=
  match e with
  | form _ g _ => f == g
  | _ => false

def text? : Expr → Option String
  | constant _ (.literal (.str s)) => some s
  | _ => none

/-- The name that a dotted expression spells, such as `a` or `a.b.c`. -/
def dotted? : Expr → Option String
  | name _ id _ => some id
  | attr _ value member => (dotted? value).map fun owner => owner ++ "." ++ member
  | _ => none

def root? : Expr → Option String
  | name _ id _ => some id
  | attr _ value _ => root? value
  | _ => none

end Expr

/-! ## Patterns -/

inductive Pattern where
  | value (span : Span) (value : Expr)
  | singleton (span : Span)
  | sequence (span : Span) (patterns : List Pattern)
  | mapping (span : Span) (keys : List Expr) (patterns : List Pattern)
  | ofClass (span : Span) (cls : Expr) (patterns keywords : List Pattern)
  | star (span : Span)
  | wildcard (span : Span)
  | capture (span : Span) (name : String)
  | bound (span : Span) (pattern : Pattern) (name : String)
  | either (span : Span) (patterns : List Pattern)
deriving Repr

def Pattern.span : Pattern → Span
  | value span _ => span
  | singleton span => span
  | sequence span _ => span
  | mapping span _ _ => span
  | ofClass span _ _ _ => span
  | star span => span
  | wildcard span => span
  | capture span _ => span
  | bound span _ _ => span
  | either span _ => span

/-! ## Statements -/

/-- A parameter with its annotation. -/
structure Param where
  span : Span
  name : String
  annot : Option Expr
deriving Repr

/-- The parameters of a function, by kind. -/
structure Params where
  positionalOnly : List Param := []
  regular : List Param := []
  variadic : Option Param := none
  keywordOnly : List Param := []
  keywordDefaults : List (Option Expr) := []
  keywords : Option Param := none
  defaults : List Expr := []
deriving Repr

/-- Forms of statement that components may not use. -/
inductive StmtForm where
  | asyncFunctionDef | delete | asyncFor | withItems | asyncWith | raise | tryExcept
  | tryStar | assert
  | importNames | importFrom | global | nonlocal
deriving DecidableEq, Repr

def StmtForm.name : StmtForm → String
  | asyncFunctionDef => "AsyncFunctionDef"
  | delete => "Delete"
  | asyncFor => "AsyncFor"
  | withItems => "With"
  | asyncWith => "AsyncWith"
  | raise => "Raise"
  | tryExcept => "Try"
  | tryStar => "TryStar"
  | assert => "Assert"
  | importNames => "Import"
  | importFrom => "ImportFrom"
  | global => "Global"
  | nonlocal => "Nonlocal"

mutual

inductive Stmt where
  | functionDef (span : Span) (name : String) (params : Params) (body : List Stmt)
      (decorators : List Expr) (returns : Option Expr)
  | classDef (span : Span) (name : String) (bases keywords : List Expr) (body : List Stmt)
      (decorators : List Expr)
  | ret (span : Span) (value : Option Expr)
  | assign (span : Span) (targets : List Expr) (value : Expr)
  | augAssign (span : Span) (target : Expr) (op : BinaryOp) (value : Expr)
  | annAssign (span : Span) (target annot : Expr) (value : Option Expr)
  | forIn (span : Span) (target iter : Expr) (body orelse : List Stmt)
  | whileDo (span : Span) (test : Expr) (body orelse : List Stmt)
  | ifElse (span : Span) (test : Expr) (body orelse : List Stmt)
  | matchOn (span : Span) (subject : Expr) (cases : List Case)
  | expr (span : Span) (value : Expr)
  | pass (span : Span)
  | brk (span : Span)
  | cont (span : Span)
  | form (span : Span) (form : StmtForm) (parts : List Part)

inductive Case where
  | mk (pattern : Pattern) (guard : Option Expr) (body : List Stmt)

/-- A part of a statement form: an expression, a statement, or an inner node with parts of its
own. -/
inductive Part where
  | expr (value : Expr)
  | stmt (value : Stmt)
  | node (parts : List Part)

end

namespace Stmt

/-- Where a statement stands. A decorated definition stands at its own line. -/
def span : Stmt → Span
  | functionDef span _ _ _ _ _ => span
  | classDef span _ _ _ _ _ => span
  | ret span _ => span
  | assign span _ _ => span
  | augAssign span _ _ _ => span
  | annAssign span _ _ _ => span
  | forIn span _ _ _ _ => span
  | whileDo span _ _ _ => span
  | ifElse span _ _ _ => span
  | matchOn span _ _ => span
  | expr span _ => span
  | pass span => span
  | brk span => span
  | cont span => span
  | form span _ _ => span

def kind : Stmt → String
  | functionDef .. => "FunctionDef"
  | classDef .. => "ClassDef"
  | ret .. => "Return"
  | assign .. => "Assign"
  | augAssign .. => "AugAssign"
  | annAssign .. => "AnnAssign"
  | forIn .. => "For"
  | whileDo .. => "While"
  | ifElse .. => "If"
  | matchOn .. => "Match"
  | expr .. => "Expr"
  | pass .. => "Pass"
  | brk .. => "Break"
  | cont .. => "Continue"
  | form _ f _ => f.name

/-- Whether a statement is a lone string, which documents what it stands in. -/
def isDocstring : Stmt → Bool
  | expr _ value => value.text?.isSome
  | _ => false

end Stmt

end Componentry.Source
