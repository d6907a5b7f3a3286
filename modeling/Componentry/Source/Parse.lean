import Componentry.Source.Token

/-!
# Reading tokens

A reader of tokens succeeds with a value and the tokens that are left, or fails. `p <|> q` tries `q`
where `p` failed, from the same place. Besides the tokens left, a reader knows where the last token
that carries text ended, which is where the construct that it has just read ends.
-/

namespace Componentry.Source

/-- The tokens that are left, and the end of the last one that carried text. -/
structure Cursor where
  rest : List Token
  last : Pos

/-- A reader of tokens. -/
abbrev Parse := StateT Cursor Option

namespace Parse

/-- Whether a token carries text, unlike the marks for lines and indentation. -/
def carriesText : Lexeme → Bool
  | .newline | .indent | .dedent | .finish => false
  | _ => true

def peek : Parse Lexeme := fun c =>
  match c.rest with
  | [] => none
  | t :: _ => some (t.lexeme, c)

def peekSecond : Parse Lexeme := fun c =>
  match c.rest with
  | _ :: t :: _ => some (t.lexeme, c)
  | _ => none

def next : Parse Token := fun c =>
  match c.rest with
  | [] => none
  | t :: rest => some (t, ⟨rest, if carriesText t.lexeme then t.span.stop else c.last⟩)

def here : Parse Pos := fun c =>
  match c.rest with
  | [] => none
  | t :: _ => some (t.span.start, c)

/-- The extent from a place to the end of the last token. -/
def spanFrom (start : Pos) : Parse Span := do return ⟨start, (← get).last⟩

/-- Takes the next token if it is the given one. -/
def expect (l : Lexeme) : Parse Unit := do
  let t ← next
  if t.lexeme = l then pure () else failure

def sign (s : Sign) : Parse Unit := expect (.sign s)

def word (w : Word) : Parse Unit := expect (.word w)

def name : Parse String := do
  match (← next).lexeme with
  | .name id _ => pure id
  | _ => failure

/-- Takes the given name, which is a word only where the grammar expects it. -/
def softWord (w : String) : Parse Unit := expect (.name w true)

def isNext (l : Lexeme) : Parse Bool := do return (← peek) = l

/-- Takes the given sign if it comes next, and tells whether it did. -/
def accept (s : Sign) : Parse Bool := do
  if ← isNext (.sign s) then
    sign s
    pure true
  else pure false

/-- Takes the given word if it comes next, and tells whether it did. -/
def acceptWord (w : Word) : Parse Bool := do
  if ← isNext (.word w) then
    word w
    pure true
  else pure false

/-- As many `p` as there are, at most one for each of the given tokens. -/
def manyUpTo (p : Parse α) : List Token → Parse (List α)
  | [] => pure []
  | _ :: bound => fun c =>
    match p c with
    | none => some ([], c)
    | some (a, c) => (manyUpTo p bound c).map fun (as, c) => (a :: as, c)

/-- As many `p` as there are. Every `p` must take a token, so the tokens left bound their number. -/
def many (p : Parse α) : Parse (List α) := fun c => manyUpTo p c.rest c

def many1 (p : Parse α) : Parse (List α) := do return (← p) :: (← many p)

def optional (p : Parse α) : Parse (Option α) := (some <$> p) <|> pure none

/-- One or more `p` with commas between them. A comma that no `p` follows is left. -/
def commaSeparated (p : Parse α) : Parse (List α) := do
  return (← p) :: (← many (sign .comma *> p))

/-- One or more `p` with commas between them and perhaps one behind. -/
def commaList (p : Parse α) : Parse (List α) := do
  let items ← commaSeparated p
  let _ ← accept .comma
  return items

end Parse

end Componentry.Source
