import Componentry.Source.Literal
import Componentry.Source.Parse
import Componentry.Source.Token.Lexer
import Componentry.Source.Tree

/-!
# The grammar of expressions

Each rule of the grammar is a reader that is given the readers of the rules below it, so that a rule
can be read by itself; `exprAt` ties them together. Its number bounds how deep expressions are
nested, and the length of the text is always enough.

A node starts where its rule starts and ends with the last token that the rule took. So an operator
node includes the brackets around its operands, whereas brackets around a whole expression do not
belong to it.
-/

namespace Componentry.Source

open Parse

/-- The rules of the grammar through which expressions contain expressions. -/
inductive Level where
  | expression | disjunction | inversion | bitwiseOr | factor | primary
deriving DecidableEq, Repr

abbrev Rules := Level → Parse Expr

namespace Grammar

/-! ## Targets -/

mutual

/-- The expression as the target of an assignment, if it can be one. -/
def target? : Expr → Option Expr
  | .name span id _ => some (.name span id .store)
  | .attr span value member => some (.attr span value member)
  | .subscript span value index => some (.subscript span value index)
  | .list span items => (targets? items).map (.list span)
  | .tuple span items => (targets? items).map (.tuple span)
  | _ => none

/-- The expressions as targets inside a list or tuple, where one may be starred. -/
def targets? : List Expr → Option (List Expr)
  | [] => some []
  | .form span .starred [value] :: rest => do
    return .form span .starred [← target? value] :: (← targets? rest)
  | e :: rest => do return (← target? e) :: (← targets? rest)

end

def starTarget? : Expr → Option Expr
  | .form span .starred [value] => (target? value).map fun t => .form span .starred [t]
  | e => target? e

/-- The expression as a target that is neither a list nor a tuple. -/
def singleTarget? : Expr → Option Expr
  | .list .. | .tuple .. => none
  | e => target? e

mutual

def deleted? : Expr → Option Expr
  | .name span id _ => some (.name span id .delete)
  | .attr span value member => some (.attr span value member)
  | .subscript span value index => some (.subscript span value index)
  | .list span items => (deletedAll? items).map (.list span)
  | .tuple span items => (deletedAll? items).map (.tuple span)
  | _ => none

def deletedAll? : List Expr → Option (List Expr)
  | [] => some []
  | e :: rest => do return (← deleted? e) :: (← deletedAll? rest)

end

/-! ## Lists of expressions -/

/-- A starred expression whose operand is read by `operand`. -/
def starred (operand : Parse Expr) : Parse Expr := do
  let start ← here
  sign .star
  let value ← operand
  return .form (← spanFrom start) .starred [value]

def named (g : Rules) : Parse Expr := do
  let start ← here
  match ← peek, ← peekSecond with
  | .name id _, .sign .colonEqual =>
    let _ ← next
    let span ← spanFrom start
    sign .colonEqual
    let value ← g .expression
    return .form (← spanFrom start) .namedExpr [.name span id .store, value]
  | _, _ =>
    let e ← g .expression
    if ← isNext (.sign .colonEqual) then failure
    return e

def starExpression (g : Rules) : Parse Expr := starred (g .bitwiseOr) <|> g .expression

def starNamed (g : Rules) : Parse Expr := starred (g .bitwiseOr) <|> named g

/-- Expressions with commas, which form a tuple if there is a comma. -/
def tupleOf (item : Parse Expr) : Parse Expr := do
  let start ← here
  let first ← item
  let rest ← many (sign .comma *> item)
  let trailing ← accept .comma
  if rest.isEmpty && !trailing then return first
  return .tuple (← spanFrom start) (first :: rest)

def starExpressions (g : Rules) : Parse Expr := tupleOf (starExpression g)

def yielded (g : Rules) : Parse Expr := do
  let start ← here
  word .kYield
  if ← acceptWord .kFrom then
    let value ← g .expression
    return .form (← spanFrom start) .yieldFrom [value]
  let value ← Parse.optional (starExpressions g)
  return .form (← spanFrom start) .yield value.toList

/-! ## Comprehensions -/

/-- Targets of a loop: they are read as operands, so that `in` is left for the loop. -/
def loopTargets (g : Rules) : Parse Expr := do
  let e ← tupleOf (starred (g .primary) <|> g .primary)
  match starTarget? e with
  | some t => return t
  | none => failure

/-- One `for` clause of a comprehension with its conditions. -/
def comprehensionClause (g : Rules) : Parse Expr := do
  let start ← here
  let _ ← acceptWord .kAsync
  word .kFor
  let target ← loopTargets g
  word .kIn
  let iter ← g .disjunction
  let conditions ← many (word .kIf *> g .disjunction)
  return .form (← spanFrom start) .comprehension (target :: iter :: conditions)

def comprehensionClauses (g : Rules) : Parse (List Expr) := many1 (comprehensionClause g)

/-! ## Parameters -/

/-- What may stand between the commas of a parameter list. -/
inductive ParamItem where
  | plain (param : Param) (default : Option Expr)
  | slash
  | star (param : Option Param)
  | doubleStar (param : Param)

/-- Parameters after the star: each has a default or not, and only a double star ends them. -/
def keywordParams (ps : Params) : List ParamItem → Option Params
  | [] => some ps
  | [.doubleStar p] => some { ps with keywords := some p }
  | .plain p default :: rest =>
    keywordParams { ps with
      keywordOnly := ps.keywordOnly ++ [p]
      keywordDefaults := ps.keywordDefaults ++ [default] } rest
  | _ => none

/-- Parameters in front of a star. After one with a default all have one. A slash makes those in
front of it positional only. -/
def positionalParams (ps : Params) : List ParamItem → Option Params
  | [] => some ps
  | .plain p none :: rest =>
    if ps.defaults.isEmpty then positionalParams { ps with regular := ps.regular ++ [p] } rest
    else none
  | .plain p (some d) :: rest =>
    positionalParams { ps with regular := ps.regular ++ [p], defaults := ps.defaults ++ [d] } rest
  | .slash :: rest =>
    if ps.regular.isEmpty || !ps.positionalOnly.isEmpty then none
    else positionalParams { ps with positionalOnly := ps.regular, regular := [] } rest
  | .star (some p) :: rest => keywordParams { ps with variadic := some p } rest
  | .star none :: .plain p d :: rest => keywordParams ps (.plain p d :: rest)
  | [.doubleStar p] => some { ps with keywords := some p }
  | _ => none

/-- A name with an annotation, where `annot` reads one if annotations are allowed. -/
def param (annot : Option (Parse Expr)) : Parse Param := do
  let start ← here
  let id ← name
  let annot ← match annot with
    | none => pure none
    | some p => if ← accept .colon then some <$> p else pure none
  return ⟨← spanFrom start, id, annot⟩

def paramItem (g : Rules) (annotated : Bool) : Parse ParamItem := do
  let annot := if annotated then some (g .expression) else none
  let starAnnot := if annotated then some (starExpression g) else none
  if ← accept .slash then return .slash
  if ← accept .star then
    match ← peek with
    | .name .. => return .star (some (← param starAnnot))
    | _ => return .star none
  if ← accept .doubleStar then return .doubleStar (← param annot)
  let p ← param annot
  if ← accept .equal then return .plain p (some (← g .expression))
  return .plain p none

def params (g : Rules) (annotated : Bool) : Parse Params := do
  let closing := if annotated then Sign.rpar else Sign.colon
  if ← isNext (.sign closing) then return {}
  let items ← commaList (paramItem g annotated)
  if !(← isNext (.sign closing)) then failure
  match positionalParams {} items with
  | some ps => return ps
  | none => failure

def paramsNode (span : Span) (ps : Params) : Expr :=
  let node (p : Param) : Expr := .form p.span .parameter p.annot.toList
  .form span .parameters (ps.positionalOnly.map node ++ ps.regular.map node
    ++ ps.variadic.toList.map node ++ ps.keywordOnly.map node
    ++ ps.keywordDefaults.filterMap id ++ ps.keywords.toList.map node ++ ps.defaults)

/-! ## Arguments -/

/-- What may stand between the commas of an argument list. -/
inductive Argument where
  | positional (value : Expr)
  | starred (value : Expr)
  | keyword (value : Expr)
  | unpacked (value : Expr)

/-- Whether arguments stand in an allowed order: no plain argument follows a keyword, and neither a
plain nor a starred one follows an unpacked mapping. -/
def argumentsInOrder (afterKeyword afterUnpacked : Bool) : List Argument → Bool
  | [] => true
  | .positional _ :: rest =>
    !afterKeyword && !afterUnpacked && argumentsInOrder afterKeyword afterUnpacked rest
  | .starred _ :: rest => !afterUnpacked && argumentsInOrder afterKeyword afterUnpacked rest
  | .keyword _ :: rest => argumentsInOrder true afterUnpacked rest
  | .unpacked _ :: rest => argumentsInOrder afterKeyword true rest

def argument (g : Rules) : Parse Argument := do
  let start ← here
  match ← peek, ← peekSecond with
  | .sign .star, _ => return .starred (← starred (g .expression))
  | .sign .doubleStar, _ =>
    sign .doubleStar
    let value ← g .expression
    return .unpacked (.form (← spanFrom start) .keyword [value])
  | .name .., .sign .equal =>
    let _ ← name
    sign .equal
    let value ← g .expression
    return .keyword (.form (← spanFrom start) .keyword [value])
  | _, _ =>
    let value ← named g
    if ← isNext (.sign .equal) then failure
    return .positional value

def splitArguments (args : List Argument) : List Expr × List Expr :=
  (args.filterMap fun
    | .positional e | .starred e => some e
    | _ => none,
   args.filterMap fun
    | .keyword e | .unpacked e => some e
    | _ => none)

def arguments (g : Rules) : Parse (List Expr × List Expr) := do
  if ← isNext (.sign .rpar) then return ([], [])
  let args ← commaList (argument g)
  if !(← isNext (.sign .rpar)) then failure
  if argumentsInOrder false false args then return splitArguments args
  failure

/-! ## Displays -/

def isNamedNext : Parse Bool := do
  match ← peek, ← peekSecond with
  | .name .., .sign .colonEqual => return true
  | _, _ => return false

def isClauseNext : Parse Bool := do
  match ← peek with
  | .word .kFor | .word .kAsync => return true
  | _ => return false

/-- What follows an opening bracket: a group, a tuple or a generator. -/
def bracketed (g : Rules) : Parse Expr := do
  let start ← here
  sign .lpar
  if ← accept .rpar then return .tuple (← spanFrom start) []
  if ← isNext (.word .kYield) then
    let e ← yielded g
    sign .rpar
    return e
  let first ← starNamed g
  match ← peek with
  | .sign .comma =>
    sign .comma
    if ← accept .rpar then return .tuple (← spanFrom start) [first]
    let rest ← commaList (starNamed g)
    sign .rpar
    return .tuple (← spanFrom start) (first :: rest)
  | .sign .rpar =>
    if first.hasForm .starred then failure
    sign .rpar
    return first
  | _ =>
    if first.hasForm .starred then failure
    let clauses ← comprehensionClauses g
    sign .rpar
    return .form (← spanFrom start) .generatorExp (first :: clauses)

def listDisplay (g : Rules) : Parse Expr := do
  let start ← here
  sign .lsqb
  if ← accept .rsqb then return .list (← spanFrom start) []
  let first ← starNamed g
  if ← isClauseNext then
    if first.hasForm .starred then failure
    let clauses ← comprehensionClauses g
    sign .rsqb
    return .form (← spanFrom start) .listComp (first :: clauses)
  let rest ← many (sign .comma *> starNamed g)
  let _ ← accept .comma
  sign .rsqb
  return .list (← spanFrom start) (first :: rest)

/-- An entry of a dictionary: a key and a value, or an unpacked mapping. -/
def dictEntry (g : Rules) : Parse (Option Expr × Expr) := do
  if ← accept .doubleStar then return (none, ← g .bitwiseOr)
  let key ← g .expression
  sign .colon
  return (some key, ← g .expression)

/-- A dictionary of entries. One with unpacked mappings is a form of its own. -/
def dictOf (span : Span) (entries : List (Option Expr × Expr)) : Expr :=
  let keys := entries.filterMap Prod.fst
  let values := entries.map Prod.snd
  if keys.length = values.length then .dict span keys values
  else .form span .unpackingDict (keys ++ values)

/-- The rest of a dictionary after its first entry. -/
def dictRest (g : Rules) (start : Pos) (first : Option Expr × Expr) : Parse Expr := do
  match first.1, ← isClauseNext with
  | some key, true =>
    let clauses ← comprehensionClauses g
    sign .rbrace
    return .form (← spanFrom start) .dictComp (key :: first.2 :: clauses)
  | _, _ =>
    let rest ← many (sign .comma *> dictEntry g)
    let _ ← accept .comma
    sign .rbrace
    return dictOf (← spanFrom start) (first :: rest)

def setRest (g : Rules) (start : Pos) (first : Expr) : Parse Expr := do
  if ← isClauseNext then
    if first.hasForm .starred then failure
    let clauses ← comprehensionClauses g
    sign .rbrace
    return .form (← spanFrom start) .setComp (first :: clauses)
  let rest ← many (sign .comma *> starNamed g)
  let _ ← accept .comma
  sign .rbrace
  return .form (← spanFrom start) .set (first :: rest)

/-- A dictionary, a set or a comprehension of either. -/
def braceDisplay (g : Rules) : Parse Expr := do
  let start ← here
  sign .lbrace
  if ← accept .rbrace then return .dict (← spanFrom start) [] []
  if ← isNext (.sign .doubleStar) then return ← dictRest g start (← dictEntry g)
  let isNamed ← isNamedNext
  let first ← starNamed g
  if !isNamed && !first.hasForm .starred then
    if ← accept .colon then return ← dictRest g start (some first, ← g .expression)
  setRest g start first

/-! ## Strings -/

/-- Reads a whole list of characters with the given reader, in a place of its own. -/
def readApart (p : Parse α) (cs : List Char) : Option α := do
  let tokens ← Lexer.tokensOf cs
  let (a, _) ← p ⟨tokens, .start⟩
  return a

mutual

def pieceExprs (g : Rules) (span : Span) : Piece → Option (List Expr)
  | .text => some []
  | .field source format => do
    let value ← readApart (bracketed g) ('(' :: source ++ [')'])
    let parts ← piecesExprs g span format
    return [.form span .formattedValue [value, .form span .joinedStr parts]]

def piecesExprs (g : Rules) (span : Span) : List Piece → Option (List Expr)
  | [] => some []
  | p :: rest => do return (← pieceExprs g span p) ++ (← piecesExprs g span rest)

end

/-- The constant or formatted string that adjacent string literals denote together. -/
def stringsExpr (g : Rules) (span : Span) (ts : List StringToken) : Option Expr :=
  if ts.any StringToken.bytes then
    if ts.all StringToken.bytes then do
      let _ ← ts.mapM StringToken.text?
      return .constant span .bytes
    else none
  else if ts.any StringToken.formatted then do
    let parts ← ts.mapM fun t =>
      if t.formatted then Piece.ofBody t.raw t.body >>= piecesExprs g span
      else t.text?.map fun _ => []
    return .form span .joinedStr parts.flatten
  else do
    let texts ← ts.mapM StringToken.text?
    return .constant span (.literal (.str (String.ofList texts.flatten)))

def stringToken : Parse StringToken := do
  match (← next).lexeme with
  | .string t => return t
  | _ => failure

def strings (g : Rules) : Parse Expr := do
  let start ← here
  let ts ← many1 stringToken
  match stringsExpr g (← spanFrom start) ts with
  | some e => return e
  | none => failure

/-! ## Operands -/

def numberConstant : Number → Constant
  | .int n => .literal (.int n)
  | .float x => .literal (.float x)
  | .imaginary => .imaginary

/-- A name, a constant or a display. -/
def atom (g : Rules) : Parse Expr := do
  let start ← here
  let constant (c : Constant) : Parse Expr := do
    let _ ← next
    return .constant (← spanFrom start) c
  match ← peek with
  | .name id _ =>
    let _ ← next
    return .name (← spanFrom start) id .load
  | .word .kTrue => constant (.literal (.bool true))
  | .word .kFalse => constant (.literal (.bool false))
  | .word .kNone => constant (.literal .none)
  | .number n => constant (numberConstant n)
  | .sign .ellipsis => constant .ellipsis
  | .string _ => strings g
  | .sign .lpar => bracketed g
  | .sign .lsqb => listDisplay g
  | .sign .lbrace => braceDisplay g
  | _ => failure

def slice (g : Rules) : Parse Expr := do
  let start ← here
  let bound : Parse (List Expr) := Option.toList <$> Parse.optional (g .expression)
  let rest (lower : List Expr) : Parse Expr := do
    sign .colon
    let upper ← bound
    let step ← if ← accept .colon then bound else pure []
    return .form (← spanFrom start) .slice (lower ++ upper ++ step)
  if ← isNext (.sign .colon) then return ← rest []
  let isNamed ← isNamedNext
  let first ← named g
  if !isNamed && (← isNext (.sign .colon)) then return ← rest [first]
  return first

def slices (g : Rules) : Parse Expr := do
  let start ← here
  let item := slice g <|> starred (g .expression)
  let first ← item
  let rest ← many (sign .comma *> item)
  let trailing ← accept .comma
  if rest.isEmpty && !trailing && !first.hasForm .starred then return first
  return .tuple (← spanFrom start) (first :: rest)

/-- The argument list of a call with its brackets. A single generator may stand in it without
brackets of its own; it then has those of the call. -/
def callArguments (g : Rules) : Parse (List Expr × List Expr) := do
  let start ← here
  sign .lpar
  if ← accept .rpar then return ([], [])
  let first ← argument g
  match first, ← isClauseNext with
  | .positional value, true =>
    let clauses ← comprehensionClauses g
    sign .rpar
    return ([.form (← spanFrom start) .generatorExp (value :: clauses)], [])
  | _, _ =>
    let args := first :: (← many (sign .comma *> argument g))
    let _ ← accept .comma
    sign .rpar
    if argumentsInOrder false false args then return splitArguments args
    failure

/-- A member, an argument list or a subscript behind an operand that starts at `start`. -/
def trailer (g : Rules) (start : Pos) : Parse (Expr → Expr) := do
  match ← peek with
  | .sign .dot =>
    sign .dot
    let member ← name
    let span ← spanFrom start
    return fun e => .attr span e member
  | .sign .lpar =>
    let (args, keywords) ← callArguments g
    let span ← spanFrom start
    return fun e => .call span e args keywords
  | .sign .lsqb =>
    sign .lsqb
    let index ← slices g
    sign .rsqb
    let span ← spanFrom start
    return fun e => .subscript span e index
  | _ => failure

def primary (g : Rules) : Parse Expr := do
  let start ← here
  let e ← atom g
  let trailers ← many (trailer g start)
  return trailers.foldl (fun e f => f e) e

/-! ## Operators -/

def power (g : Rules) : Parse Expr := do
  let start ← here
  let base ← if ← acceptWord .kAwait then do
      let value ← primary g
      pure (.form (← spanFrom start) .await [value])
    else primary g
  if ← accept .doubleStar then
    let exponent ← g .factor
    return .binary (← spanFrom start) base .pow exponent
  return base

def unarySign : Sign → Option UnaryOp
  | .plus => some .plus
  | .minus => some .minus
  | .tilde => some .invert
  | _ => none

def factor (g : Rules) : Parse Expr := do
  let start ← here
  let op := match ← peek with
    | .sign s => unarySign s
    | _ => none
  match op with
  | some op =>
    let _ ← next
    let operand ← g .factor
    return .unary (← spanFrom start) op operand
  | none => power g

/-- Binary operators by precedence, loosest first. All associate to the left. -/
def precedence : List (List (Sign × BinaryOp)) :=
  [[(.vbar, .bitOr)],
   [(.circumflex, .bitXor)],
   [(.amper, .bitAnd)],
   [(.leftShift, .lShift), (.rightShift, .rShift)],
   [(.plus, .add), (.minus, .sub)],
   [(.star, .mult), (.slash, .div), (.doubleSlash, .floorDiv), (.percent, .mod), (.at, .matMult)]]

def binaryOperator (ops : List (Sign × BinaryOp)) : Parse BinaryOp := do
  match (← next).lexeme with
  | .sign s =>
    match ops.find? (·.1 = s) with
    | some (_, op) => return op
    | none => failure
  | _ => failure

/-- Operands joined by operators of the given precedences. -/
def operatorChain (operand : Parse Expr) : List (List (Sign × BinaryOp)) → Parse Expr
  | [] => operand
  | ops :: tighter => do
    let start ← here
    let first ← operatorChain operand tighter
    let rest ← many (do
      let op ← binaryOperator ops
      let right ← operatorChain operand tighter
      return (op, right, ← spanFrom start))
    return rest.foldl (fun left (op, right, span) => .binary span left op right) first

def bitwiseOr (g : Rules) : Parse Expr := operatorChain (factor g) precedence

def compareOperator : Parse CompareOp := do
  match (← next).lexeme with
  | .sign .eqEqual => return .eq
  | .sign .notEqual => return .notEq
  | .sign .less => return .lt
  | .sign .lessEqual => return .ltE
  | .sign .greater => return .gt
  | .sign .greaterEqual => return .gtE
  | .word .kIn => return .isIn
  | .word .kNot =>
    word .kIn
    return .notIn
  | .word .kIs => if ← acceptWord .kNot then return .isNot else return .is
  | _ => failure

def comparison (g : Rules) : Parse Expr := do
  let start ← here
  let left ← bitwiseOr g
  let rest ← many (do return (← compareOperator, ← bitwiseOr g))
  if rest.isEmpty then return left
  return .compare (← spanFrom start) left (rest.map Prod.fst) (rest.map Prod.snd)

def inversion (g : Rules) : Parse Expr := do
  let start ← here
  if ← acceptWord .kNot then
    let operand ← g .inversion
    return .unary (← spanFrom start) .not operand
  comparison g

/-- Operands joined by one connective, which form one node. -/
def connectiveChain (w : Word) (op : BoolOp) (operand : Parse Expr) : Parse Expr := do
  let start ← here
  let first ← operand
  let rest ← many (word w *> operand)
  if rest.isEmpty then return first
  return .connective (← spanFrom start) op (first :: rest)

def disjunction (g : Rules) : Parse Expr :=
  connectiveChain .kOr .or (connectiveChain .kAnd .and (inversion g))

def lambda (g : Rules) : Parse Expr := do
  let start ← here
  word .kLambda
  let ps ← params g false
  let span ← spanFrom start
  sign .colon
  let body ← g .expression
  return .form (← spanFrom start) .lambda [paramsNode span ps, body]

/-- An expression: a conditional, a disjunction or an anonymous function. -/
def expression (g : Rules) : Parse Expr := do
  if ← isNext (.word .kLambda) then return ← lambda g
  let start ← here
  let body ← disjunction g
  let conditional : Parse Expr := do
    word .kIf
    let test ← g .disjunction
    word .kElse
    let orelse ← g .expression
    return .ifExpr (← spanFrom start) test body orelse
  conditional <|> pure body

/-- Every rule in terms of the rules below it. -/
def rule (g : Rules) : Rules
  | .expression => expression g
  | .disjunction => disjunction g
  | .inversion => inversion g
  | .bitwiseOr => bitwiseOr g
  | .factor => factor g
  | .primary => primary g

/-- The rules, for expressions nested at most as deep as the number says. -/
def exprAt : Nat → Rules
  | 0, _ => failure
  | n + 1, level => rule (exprAt n) level

end Grammar

end Componentry.Source
