import Componentry.Source.Token
import Componentry.Source.Token.Number
import Componentry.Text.Identifier
import Componentry.Text.Normal

/-!
# From text to tokens

Line ends are made uniform first. A logical line ends where a physical line ends outside brackets;
blank lines and comments do not count. The indentation of a logical line is measured twice, with
tabs at every eighth column and with tabs of width one, and both measures must agree on how two
lines compare. `tokens` fails on any text that has no tokens.

Every step of the main loop consumes a character or passes from the start of a line to its content,
so twice the length of the text bounds the steps.
-/

namespace Componentry.Source.Lexer

/-! ## Line ends -/

/-- Ends the last line if it has no end. -/
def close (cs : List Char) : List Char := if cs.getLast? = some '\n' then cs else cs ++ ['\n']

/-! ## Strings -/

/-- The characters of a string on one line up to its quote. A backslash protects any character. -/
def shortBody (quote : Char) : List Char → Option (List Char)
  | [] => none
  | ['\\'] => none
  | '\\' :: c :: rest => (shortBody quote rest).map ('\\' :: c :: ·)
  | c :: rest =>
    if c = quote then some []
    else if c = '\n' then none
    else (shortBody quote rest).map (c :: ·)

/-- The characters of a string up to its three quotes. -/
def longBody (quote : Char) : List Char → Option (List Char)
  | [] => none
  | ['\\'] => none
  | '\\' :: c :: rest => (longBody quote rest).map ('\\' :: c :: ·)
  | c :: rest =>
    if c = quote && rest.take 2 == [quote, quote] then some []
    else (longBody quote rest).map (c :: ·)

/-- The characters of a string after its first quote, and how many quotes stand on either side. -/
def stringBody (quote : Char) (cs : List Char) : Option (List Char × Nat) :=
  if cs.take 2 == [quote, quote] then (longBody quote (cs.drop 2)).map (·, 3)
  else (shortBody quote cs).map (·, 1)

/-- The letters that may stand in front of a string, as the kind of string they give. -/
def stringKind? (letters : List Char) : Option (List Char → StringToken) :=
  match letters.map Char.toLower with
  | [] => some fun body => ⟨false, false, false, body⟩
  | ['u'] => some fun body => ⟨false, false, false, body⟩
  | ['r'] => some fun body => ⟨true, false, false, body⟩
  | ['b'] => some fun body => ⟨false, true, false, body⟩
  | ['f'] => some fun body => ⟨false, false, true, body⟩
  | ['b', 'r'] => some fun body => ⟨true, true, false, body⟩
  | ['r', 'b'] => some fun body => ⟨true, true, false, body⟩
  | ['f', 'r'] => some fun body => ⟨true, false, true, body⟩
  | ['r', 'f'] => some fun body => ⟨true, false, true, body⟩
  | _ => none

/-! ## Single tokens -/

def sign? (cs : List Char) : Option (Sign × Nat) :=
  (Sign.table.find? fun entry => entry.1.toList.isPrefixOf cs).map fun entry =>
    (entry.2, entry.1.length)

/-- A name or reserved word. Names are compared in their normal form, reserved words as they are
written. -/
def nameLexeme (id : List Char) : Option Lexeme :=
  let s := String.ofList id
  match Word.ofText? s with
  | some w => some (.word w)
  | none =>
    let normal := Text.normalForm s
    if Text.isIdentifier s then some (.name normal (normal == s)) else none

/-- Whether a text starts with a number: a digit, or a point and a digit. -/
def startsNumber : List Char → Bool
  | '.' :: d :: _ => d.isDigit
  | c :: _ => c.isDigit
  | [] => false

/-- The number at the front of a text, and its length. It ends before any character that no number
holds. -/
def number? (cs : List Char) : Option (Lexeme × Nat) :=
  let window := cs.takeWhile fun c => Number.isNamePart c || c == '.' || c == '+' || c == '-'
  (Number.lex window).map fun (n, rest) => (.number n, window.length - rest.length)

/-- The string at the front of a text, and its length. The text starts with the letters in front of
the quote. -/
def string? (letters : List Char) (quote : Char) (cs : List Char) : Option (Lexeme × Nat) := do
  let kind ← stringKind? letters
  let (body, width) ← stringBody quote cs
  some (.string (kind body), letters.length + body.length + 2 * width)

/-- The token at the front of a text that starts with no blank, and its length. -/
def lexeme? (cs : List Char) : Option (Lexeme × Nat) :=
  if startsNumber cs then number? cs
  else
    let letters := cs.takeWhile Number.isNamePart
    let name := if letters.isEmpty then none else (nameLexeme letters).map (·, letters.length)
    match cs.drop letters.length with
    | '"' :: rest => if (stringKind? letters).isSome then string? letters '"' rest else name
    | '\'' :: rest => if (stringKind? letters).isSome then string? letters '\'' rest else name
    | _ =>
      if letters.isEmpty then (sign? cs).map fun (s, length) => (.sign s, length) else name

/-! ## Indentation -/

/-- A depth of indentation, measured with wide and with narrow tabs. -/
structure Depth where
  wide : Nat
  narrow : Nat
deriving DecidableEq, Repr

/-- The indentation in front of a line's content, and how many characters it takes. A line that is
continued inside its indentation is as deep as what stands before the first backslash, unless
nothing does. -/
def indentation (depth : Depth) (fixed : Nat) : List Char → Option (Depth × Nat)
  | ' ' :: rest => further 1 (indentation ⟨depth.wide + 1, depth.narrow + 1⟩ fixed rest)
  | '\t' :: rest => further 1 (indentation ⟨(depth.wide / 8 + 1) * 8, depth.narrow + 1⟩ fixed rest)
  | '\x0c' :: rest => further 1 (indentation ⟨0, 0⟩ fixed rest)
  | '\\' :: '\n' :: c :: rest =>
    further 2 (indentation depth (if fixed = 0 then depth.wide else fixed) (c :: rest))
  | '\\' :: _ => none
  | _ => some (if fixed = 0 then depth else ⟨fixed, fixed⟩, 0)
where
  /-- Counts characters in front. -/
  further (count : Nat) (found : Option (Depth × Nat)) : Option (Depth × Nat) :=
    found.map fun (depth, length) => (depth, length + count)

/-- Indentation may not be nested deeper than this. -/
def depthLimit : Nat := 100

/-- Brackets may not be nested deeper than this. -/
def bracketLimit : Nat := 200

/-- Closes the indentations deeper than the given one. -/
def closeTo (depth : Depth) : List Depth → Option (List Lexeme × List Depth)
  | [] => none
  | top :: outer =>
    if depth.wide < top.wide then
      (closeTo depth outer).map fun (ls, stack) => (.dedent :: ls, stack)
    else if depth = top then some ([], top :: outer)
    else none

/-- Compares a line's indentation with the open ones: the marks to set and the new stack. -/
def reindent (depth : Depth) (stack : List Depth) : Option (List Lexeme × List Depth) :=
  match stack with
  | [] => none
  | top :: _ =>
    if top.wide < depth.wide then
      if depthLimit ≤ stack.length || depth.narrow ≤ top.narrow then none
      else some ([.indent], depth :: stack)
    else closeTo depth stack

/-! ## The main loop -/

/-- What is open at a point of the text: indentations, innermost first, and brackets. -/
structure Open where
  depths : List Depth := [⟨0, 0⟩]
  brackets : List Sign := []
deriving Repr

/-- Follows brackets; a closing bracket must match the last one that was opened. -/
def Open.afterSign (o : Open) (s : Sign) : Option Open :=
  let opened := if bracketLimit ≤ o.brackets.length then none
    else some { o with brackets := s :: o.brackets }
  let closed (opening : Sign) := match o.brackets with
    | b :: outer => if b = opening then some { o with brackets := outer } else none
    | [] => none
  match s with
  | .lpar | .lsqb | .lbrace => opened
  | .rpar => closed .lpar
  | .rsqb => closed .lsqb
  | .rbrace => closed .lbrace
  | _ => some o

def isGap (c : Char) : Bool := c == ' ' || c == '\t' || c == '\x0c'

def markAt (p : Pos) (l : Lexeme) : Token := ⟨l, ⟨p, p⟩⟩

/-- The tokens of a text from a position on. `atStart` says whether a line starts there. -/
def loop : Nat → Open → Bool → Pos → List Char → Option (List Token)
  | 0, _, _, _, _ => none
  | n + 1, o, true, p, cs => do
    let (depth, length) ← indentation ⟨0, 0⟩ 0 cs
    let p' := p.after (cs.take length)
    let rest := cs.drop length
    match rest with
    | [] =>
      if !o.brackets.isEmpty then none
      else
        let (marks, _) ← closeTo ⟨0, 0⟩ o.depths
        some ((marks ++ [Lexeme.finish]).map (markAt p'))
    | '\n' :: after => loop n o true (p'.step '\n') after
    | '#' :: _ =>
      let comment := rest.takeWhile (· != '\n')
      loop n o true ((p'.after comment).step '\n') ((rest.drop comment.length).drop 1)
    | _ =>
      if o.brackets.isEmpty then do
        let (marks, depths) ← reindent depth o.depths
        let tokens ← loop n { o with depths } false p' rest
        some (marks.map (markAt p') ++ tokens)
      else loop n o false p' rest
  | n + 1, o, false, p, cs =>
    let gap := cs.takeWhile isGap
    let p := p.after gap
    match cs.drop gap.length with
    | [] => if o.brackets.isEmpty then some [markAt p .finish] else none
    | '\n' :: rest =>
      let following := loop n o true (p.step '\n') rest
      if o.brackets.isEmpty then following.map (markAt p .newline :: ·) else following
    | '#' :: rest =>
      let comment := rest.takeWhile (· != '\n')
      loop n o false (p.after ('#' :: comment)) (rest.drop comment.length)
    | '\\' :: '\n' :: c :: rest => loop n o false (p.step '\n') (c :: rest)
    | cs => do
      let (lexeme, length) ← lexeme? cs
      let stop := p.after (cs.take length)
      let o ← match lexeme with
        | .sign s => o.afterSign s
        | _ => some o
      let tokens ← loop n o false stop (cs.drop length)
      some (⟨lexeme, ⟨p, stop⟩⟩ :: tokens)

def tokensOf (cs : List Char) : Option (List Token) :=
  let cs := close (Text.uniformEnds cs)
  loop (2 * cs.length + 2) {} true .start cs

end Lexer

def tokens (source : String) : Option (List Token) := Lexer.tokensOf source.toList

end Componentry.Source
