import Componentry.Source.Grammar.Pattern

/-!
# The grammar of statements

Each rule for a statement with a block is given the reader for blocks; `statementAt` ties them
together. `parse` reads a whole source text.

A block's statement ends with the last token that carries text, so it includes a semicolon at its
end but no line end.
-/

namespace Componentry.Source

namespace Grammar

open Parse

/-! ## Simple statements -/

def augmentedSign : Sign → Option BinaryOp
  | .plusEqual => some .add
  | .minEqual => some .sub
  | .starEqual => some .mult
  | .atEqual => some .matMult
  | .slashEqual => some .div
  | .percentEqual => some .mod
  | .amperEqual => some .bitAnd
  | .vbarEqual => some .bitOr
  | .circumflexEqual => some .bitXor
  | .leftShiftEqual => some .lShift
  | .rightShiftEqual => some .rShift
  | .doubleStarEqual => some .pow
  | .doubleSlashEqual => some .floorDiv
  | _ => none

def assigned (g : Rules) : Parse Expr := do
  if ← isNext (.word .kYield) then yielded g else starExpressions g

/-- Fails where there is nothing. -/
def ofOption (x : Option α) : Parse α :=
  match x with
  | some a => pure a
  | none => failure

/-- An expression, or an assignment to what was read as an expression. -/
def expressionStatement (g : Rules) : Parse Stmt := do
  let start ← here
  let e ← assigned g
  match ← peek with
  | .sign .colon =>
    sign .colon
    let target ← ofOption (singleTarget? e)
    let annot ← g .expression
    let value ← if ← accept .equal then some <$> assigned g else pure none
    return .annAssign (← spanFrom start) target annot value
  | .sign s =>
    match augmentedSign s with
    | some op =>
      let _ ← next
      let target ← ofOption (singleTarget? e)
      let value ← assigned g
      return .augAssign (← spanFrom start) target op value
    | none =>
      let values ← many (sign .equal *> assigned g)
      match values.getLast? with
      | none => return .expr (← spanFrom start) e
      | some value =>
        let targets ← ofOption ((e :: values.dropLast).mapM starTarget?)
        return .assign (← spanFrom start) targets value
  | _ => return .expr (← spanFrom start) e

def moduleName : Parse Unit := do
  let _ ← name
  let _ ← many (sign .dot *> name)

/-- An imported name with the name it is given. -/
def renamed (imported : Parse Unit) : Parse Unit := do
  imported
  if ← acceptWord .kAs then
    let _ ← name

/-- An import from a module, after the word `from`. -/
def importFrom : Parse Unit := do
  let dots ← many (sign .dot <|> sign .ellipsis)
  if dots.isEmpty then moduleName
  else if !(← isNext (.word .kImport)) then moduleName
  word .kImport
  let item := renamed (do let _ ← name)
  if ← accept .star then return
  if ← accept .lpar then
    let _ ← commaList item
    sign .rpar
  else
    let _ ← commaSeparated item

def exprParts (es : List Expr) : List Part := es.map .expr

def deletion (g : Rules) : Parse (List Expr) := do
  let items ← commaList (g .primary)
  ofOption (deletedAll? items)

/-- An expression and perhaps another after the given reader. -/
def exprPair (g : Rules) (between : Parse Unit) : Parse (List Expr) := do
  let first ← g .expression
  let second ← Parse.optional (between *> g .expression)
  return first :: second.toList

def simpleStatement (g : Rules) : Parse Stmt := do
  let start ← here
  let form (f : StmtForm) (parts : Parse (List Expr)) : Parse Stmt := do
    let _ ← next
    let parts ← parts
    return .form (← spanFrom start) f (exprParts parts)
  match ← peek with
  | .word .kPass =>
    let _ ← next
    return .pass (← spanFrom start)
  | .word .kBreak =>
    let _ ← next
    return .brk (← spanFrom start)
  | .word .kContinue =>
    let _ ← next
    return .cont (← spanFrom start)
  | .word .kReturn =>
    let _ ← next
    let value ← Parse.optional (starExpressions g)
    return .ret (← spanFrom start) value
  | .word .kRaise =>
    form .raise (do return (← Parse.optional (exprPair g (word .kFrom))).getD [])
  | .word .kGlobal => form .global (do let _ ← commaSeparated name; return [])
  | .word .kNonlocal => form .nonlocal (do let _ ← commaSeparated name; return [])
  | .word .kDel => form .delete (deletion g)
  | .word .kAssert => form .assert (exprPair g (sign .comma))
  | .word .kImport => form .importNames (do let _ ← commaSeparated (renamed moduleName); return [])
  | .word .kFrom => form .importFrom (do importFrom; return [])
  | _ => expressionStatement g

def simpleStatements (g : Rules) : Parse (List Stmt) := do
  let first ← simpleStatement g
  let rest ← many (sign .semi *> simpleStatement g)
  let _ ← accept .semi
  expect .newline
  return first :: rest

/-! ## Statements with blocks -/

/-- A block, where `statement` reads the statements inside. -/
def block (g : Rules) (statement : Parse (List Stmt)) : Parse (List Stmt) := do
  if ← isNext .newline then
    expect .newline
    expect .indent
    let stmts ← many1 statement
    expect .dedent
    return stmts.flatten
  simpleStatements g

def suite (body : Parse (List Stmt)) : Parse (List Stmt) := sign .colon *> body

def elseSuite (body : Parse (List Stmt)) : Parse (List Stmt) := do
  if ← acceptWord .kElse then suite body else return []

def functionDef (g : Rules) (body : Parse (List Stmt)) (decorators : List Expr) : Parse Stmt := do
  let start ← here
  let isAsync ← acceptWord .kAsync
  word .kDef
  let id ← name
  sign .lpar
  let ps ← params g true
  let span ← spanFrom start
  sign .rpar
  let returns ← if ← accept .rarrow then some <$> g .expression else pure none
  let stmts ← suite body
  if isAsync then
    let parts := .expr (paramsNode span ps) :: stmts.map Part.stmt
      ++ exprParts (decorators ++ returns.toList)
    return .form (← spanFrom start) .asyncFunctionDef parts
  return .functionDef (← spanFrom start) id ps stmts decorators returns

def classDef (g : Rules) (body : Parse (List Stmt)) (decorators : List Expr) : Parse Stmt := do
  let start ← here
  word .kClass
  let id ← name
  let (bases, keywords) ← if ← accept .lpar then do
      let args ← arguments g
      sign .rpar
      pure args
    else pure ([], [])
  let stmts ← suite body
  return .classDef (← spanFrom start) id bases keywords stmts decorators

def decorator (g : Rules) : Parse Expr := do
  sign .at
  let e ← named g
  expect .newline
  return e

def decorated (g : Rules) (body : Parse (List Stmt)) : Parse Stmt := do
  let decorators ← many1 (decorator g)
  if ← isNext (.word .kClass) then classDef g body decorators
  else functionDef g body decorators

def conditionSuite (g : Rules) (body : Parse (List Stmt)) : Parse (Expr × List Stmt) := do
  let test ← named g
  return (test, ← suite body)

/-- A conditional statement. Each further condition is a conditional statement inside the last. -/
def ifStatement (g : Rules) (body : Parse (List Stmt)) : Parse Stmt := do
  let start ← here
  word .kIf
  let (test, stmts) ← conditionSuite g body
  let further ← many (do
    let start ← here
    word .kElif
    return (start, ← conditionSuite g body))
  let orelse ← elseSuite body
  let stop := (← get).last
  let orelse := further.foldr
    (fun (start, test, stmts) orelse => [.ifElse ⟨start, stop⟩ test stmts orelse]) orelse
  return .ifElse ⟨start, stop⟩ test stmts orelse

def whileStatement (g : Rules) (body : Parse (List Stmt)) : Parse Stmt := do
  let start ← here
  word .kWhile
  let (test, stmts) ← conditionSuite g body
  let orelse ← elseSuite body
  return .whileDo (← spanFrom start) test stmts orelse

def forStatement (g : Rules) (body : Parse (List Stmt)) : Parse Stmt := do
  let start ← here
  let isAsync ← acceptWord .kAsync
  word .kFor
  let target ← loopTargets g
  word .kIn
  let iter ← starExpressions g
  let stmts ← suite body
  let orelse ← elseSuite body
  let span ← spanFrom start
  if isAsync then
    return .form span .asyncFor (exprParts [target, iter] ++ (stmts ++ orelse).map .stmt)
  return .forIn span target iter stmts orelse

def withItem (g : Rules) : Parse Part := do
  let context ← g .expression
  let target ← if ← acceptWord .kAs then do
      let e ← starred (g .primary) <|> g .primary
      pure [← ofOption (starTarget? e)]
    else pure []
  return .node (exprParts (context :: target))

/-- The items of a `with` statement up to the colon. Brackets around them are tried first. -/
def withItems (g : Rules) : Parse (List Part) :=
  (sign .lpar *> commaList (withItem g) <* sign .rpar <* sign .colon)
    <|> (commaSeparated (withItem g) <* sign .colon)

def withStatement (g : Rules) (body : Parse (List Stmt)) : Parse Stmt := do
  let start ← here
  let isAsync ← acceptWord .kAsync
  word .kWith
  let items ← withItems g
  let stmts ← body
  return .form (← spanFrom start) (if isAsync then .asyncWith else .withItems)
    (items ++ stmts.map .stmt)

/-- A handler of a `try` statement; `starred` asks for the starred kind. -/
def handler (g : Rules) (body : Parse (List Stmt)) (starred : Bool) : Parse Part := do
  word .kExcept
  if starred then sign .star
  else if ← isNext (.sign .star) then failure
  let type ← if !starred && (← isNext (.sign .colon)) then pure [] else do
    let e ← g .expression
    if ← acceptWord .kAs then
      let _ ← name
    pure [e]
  let stmts ← suite body
  return .node (exprParts type ++ stmts.map .stmt)

def finallySuite (body : Parse (List Stmt)) : Parse (List Stmt) := word .kFinally *> suite body

def tryStatement (g : Rules) (body : Parse (List Stmt)) : Parse Stmt := do
  let start ← here
  word .kTry
  let stmts ← suite body
  if ← isNext (.word .kFinally) then
    let final ← finallySuite body
    return .form (← spanFrom start) .tryExcept ((stmts ++ final).map .stmt)
  let starred := (← peekSecond) = .sign .star
  let handlers ← many1 (handler g body starred)
  let orelse ← elseSuite body
  let final ← if ← isNext (.word .kFinally) then finallySuite body else pure []
  return .form (← spanFrom start) (if starred then .tryStar else .tryExcept)
    (stmts.map .stmt ++ handlers ++ (orelse ++ final).map .stmt)

def caseBlock (g : Rules) (p : Parse Pattern) (body : Parse (List Stmt)) : Parse Case := do
  softWord "case"
  let pattern ← casePattern p
  let guard ← if ← acceptWord .kIf then some <$> named g else pure none
  return .mk pattern guard (← suite body)

def matchSubject (g : Rules) : Parse Expr := do
  let e ← tupleOf (starNamed g)
  if e.hasForm .starred then failure
  return e

def matchStatement (g : Rules) (p : Parse Pattern) (body : Parse (List Stmt)) : Parse Stmt := do
  let start ← here
  softWord "match"
  let subject ← matchSubject g
  sign .colon
  expect .newline
  expect .indent
  let cases ← many1 (caseBlock g p body)
  expect .dedent
  return .matchOn (← spanFrom start) subject cases

/-- A statement, or the statements of a line. -/
def statement (g : Rules) (p : Parse Pattern) (body : Parse (List Stmt)) : Parse (List Stmt) := do
  let single (s : Parse Stmt) : Parse (List Stmt) := do return [← s]
  match ← peek with
  | .sign .at => single (decorated g body)
  | .word .kDef => single (functionDef g body [])
  | .word .kClass => single (classDef g body [])
  | .word .kIf => single (ifStatement g body)
  | .word .kWhile => single (whileStatement g body)
  | .word .kFor => single (forStatement g body)
  | .word .kWith => single (withStatement g body)
  | .word .kTry => single (tryStatement g body)
  | .word .kAsync =>
    match ← peekSecond with
    | .word .kDef => single (functionDef g body [])
    | .word .kFor => single (forStatement g body)
    | .word .kWith => single (withStatement g body)
    | _ => failure
  | .name "match" true => single (matchStatement g p body) <|> simpleStatements g
  | _ => simpleStatements g

/-- Statements nested at most as deep as the number says. -/
def statementAt (g : Rules) (p : Parse Pattern) : Nat → Parse (List Stmt)
  | 0 => failure
  | n + 1 => statement g p (block g (statementAt g p n))

def program (depth : Nat) : Parse (List Stmt) := do
  let g := exprAt depth
  let stmts ← many (statementAt g (patternAt g depth) depth)
  expect .finish
  return stmts.flatten

end Grammar

/-- The statements of a source text, if it conforms to the grammar. -/
def parse (source : String) : Option (List Stmt) := do
  let ts ← tokens source
  let (stmts, _) ← Grammar.program (4 * source.length + 16) ⟨ts, .start⟩
  return stmts

end Componentry.Source
