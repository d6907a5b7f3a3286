import Componentry.Source.Grammar.Expression

/-!
# The grammar of patterns

Patterns of match cases. As with expressions, each rule is given the reader for the patterns inside
it, and `patternAt` ties them together.
-/

namespace Componentry.Source.Grammar

open Parse

/-- A name that a pattern binds: not the underscore, and not the start of something longer. -/
def captureName : Parse String := do
  let id ← name
  if id = "_" then failure
  match ← peek with
  | .sign .dot | .sign .lpar | .sign .equal => failure
  | _ => return id

def dottedName : Parse Expr := do
  let start ← here
  let id ← name
  let span ← spanFrom start
  let members ← many (do
    sign .dot
    let member ← name
    return (member, ← spanFrom start))
  return members.foldl (fun e (member, span) => .attr span e member) (.name span id .load)

def numberToken : Parse Number := do
  match (← next).lexeme with
  | .number n => return n
  | _ => failure

def signedNumber : Parse (Expr × Number) := do
  let start ← here
  let negative ← accept .minus
  let inner ← here
  let n ← numberToken
  let e : Expr := .constant (← spanFrom inner) (numberConstant n)
  if negative then return (.unary (← spanFrom start) .minus e, n)
  return (e, n)

def isImaginary : Number → Bool
  | .imaginary => true
  | _ => false

def numberExpr : Parse Expr := do
  let start ← here
  let (left, n) ← signedNumber
  let op? : Option BinaryOp := match ← peek with
    | .sign .plus => some .add
    | .sign .minus => some .sub
    | _ => none
  match op? with
  | none => return left
  | some op =>
    let _ ← next
    let inner ← here
    let m ← numberToken
    if isImaginary n || !isImaginary m then failure
    let right : Expr := .constant (← spanFrom inner) (numberConstant m)
    return .binary (← spanFrom start) left op right

/-- A literal: a number, strings, or nothing for one of the three named constants. -/
def literalExpr (g : Rules) : Parse (Option Expr) := do
  match ← peek with
  | .number _ | .sign .minus => return some (← numberExpr)
  | .string _ => return some (← strings g)
  | .word .kNone | .word .kTrue | .word .kFalse =>
    let _ ← next
    return none
  | _ => failure

def literalPattern (g : Rules) : Parse Pattern := do
  let start ← here
  match ← literalExpr g with
  | some e => return .value (← spanFrom start) e
  | none => return .singleton (← spanFrom start)

def starPattern : Parse Pattern := do
  let start ← here
  sign .star
  let id ← name
  match ← peek with
  | .sign .dot | .sign .lpar | .sign .equal => if id = "_" then pure () else failure
  | _ => pure ()
  return .star (← spanFrom start)

def sequenceItem (p : Parse Pattern) : Parse Pattern := starPattern <|> p

def bracketedPattern (p : Parse Pattern) : Parse Pattern := do
  let start ← here
  sign .lpar
  if ← accept .rpar then return .sequence (← spanFrom start) []
  let isStar ← isNext (.sign .star)
  let first ← sequenceItem p
  if ← accept .comma then
    let rest ← if ← isNext (.sign .rpar) then pure [] else commaList (sequenceItem p)
    sign .rpar
    return .sequence (← spanFrom start) (first :: rest)
  if isStar then failure
  sign .rpar
  return first

def listPattern (p : Parse Pattern) : Parse Pattern := do
  let start ← here
  sign .lsqb
  if ← accept .rsqb then return .sequence (← spanFrom start) []
  let items ← commaList (sequenceItem p)
  sign .rsqb
  return .sequence (← spanFrom start) items

def namedConstant? : Lexeme → Option Constant
  | .word .kNone => some (.literal .none)
  | .word .kTrue => some (.literal (.bool true))
  | .word .kFalse => some (.literal (.bool false))
  | _ => none

def mappingKey (g : Rules) : Parse Expr := do
  let start ← here
  match ← peek with
  | .name .. =>
    let e ← dottedName
    match e with
    | .attr .. => return e
    | _ => failure
  | l =>
    match ← literalExpr g, namedConstant? l with
    | some e, _ => return e
    | none, some c => return .constant (← spanFrom start) c
    | none, none => failure

/-- An entry of a mapping pattern, or nothing for the rest of the mapping. -/
def mappingItem (g : Rules) (p : Parse Pattern) : Parse (Option (Expr × Pattern)) := do
  if ← accept .doubleStar then
    let _ ← captureName
    return none
  let key ← mappingKey g
  sign .colon
  return some (key, ← p)

/-- A mapping pattern. Only its last item may be the rest. -/
def mappingPattern (g : Rules) (p : Parse Pattern) : Parse Pattern := do
  let start ← here
  sign .lbrace
  if ← accept .rbrace then return .mapping (← spanFrom start) [] []
  let items ← commaList (mappingItem g p)
  sign .rbrace
  if items.dropLast.any Option.isNone then failure
  let entries := items.filterMap id
  return .mapping (← spanFrom start) (entries.map Prod.fst) (entries.map Prod.snd)

/-- An argument of a class pattern, and whether it has a keyword. -/
def classItem (p : Parse Pattern) : Parse (Bool × Pattern) := do
  match ← peek, ← peekSecond with
  | .name .., .sign .equal =>
    let _ ← name
    sign .equal
    return (true, ← p)
  | _, _ => return (false, ← p)

/-- The arguments of a class pattern: positional ones first. -/
def classItems (p : Parse Pattern) : Parse (List Pattern × List Pattern) := do
  if ← isNext (.sign .rpar) then return ([], [])
  let items ← commaList (classItem p)
  let positional := items.takeWhile fun i => !i.1
  let keywords := items.drop positional.length
  if keywords.all Prod.fst then return (positional.map Prod.snd, keywords.map Prod.snd)
  failure

/-- A pattern that starts with a name: a capture, a value or a class. The underscore alone is the
wildcard, whatever follows it. -/
def namePattern (p : Parse Pattern) : Parse Pattern := do
  let start ← here
  if ← isNext (.name "_" true) then
    let _ ← next
    return .wildcard (← spanFrom start)
  let e ← dottedName
  if ← accept .lpar then
    let (patterns, keywords) ← classItems p
    sign .rpar
    return .ofClass (← spanFrom start) e patterns keywords
  if ← isNext (.sign .equal) then failure
  match e with
  | .name span id _ => return .capture span id
  | e => return .value (← spanFrom start) e

def closedPattern (g : Rules) (p : Parse Pattern) : Parse Pattern := do
  match ← peek with
  | .name .. => namePattern p
  | .sign .lpar => bracketedPattern p
  | .sign .lsqb => listPattern p
  | .sign .lbrace => mappingPattern g p
  | _ => literalPattern g

def pattern (g : Rules) (p : Parse Pattern) : Parse Pattern := do
  let start ← here
  let first ← closedPattern g p
  let rest ← many (sign .vbar *> closedPattern g p)
  let span ← spanFrom start
  let alternatives : Pattern := if rest.isEmpty then first else .either span (first :: rest)
  if ← acceptWord .kAs then
    let id ← captureName
    return .bound (← spanFrom start) alternatives id
  return alternatives

/-- Patterns nested at most as deep as the number says. -/
def patternAt (g : Rules) : Nat → Parse Pattern
  | 0 => failure
  | n + 1 => pattern g (patternAt g n)

/-- The pattern of a case, which may be a sequence without brackets. -/
def casePattern (p : Parse Pattern) : Parse Pattern := do
  let start ← here
  let isStar ← isNext (.sign .star)
  let first ← sequenceItem p
  if ← accept .comma then
    let rest ← Parse.optional (commaList (sequenceItem p))
    return .sequence (← spanFrom start) (first :: rest.getD [])
  if isStar then failure
  return first

end Componentry.Source.Grammar
