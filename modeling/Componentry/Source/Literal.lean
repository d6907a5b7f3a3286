import Componentry.Source.Token.Number
import Componentry.Text.CharacterName

/-!
# String literals

The text that the body of a string literal denotes, and the division of a formatted string into
literal text and replacement fields.

A formatted string is scanned twice: here only for where its fields start and end, so that the
source of each field can be handed to the grammar. A field ends at the first colon, exclamation
mark, equals sign or closing brace outside quotes and brackets. A field may have a format, which is
divided by the same rule; fields inside a format may not hold fields again.
-/

namespace Componentry.Source

/-! ## Escapes -/

namespace Escape

/-- The character with a code. Texts hold no halves of surrogate pairs: an escape of a lone one is
read as the replacement character, whichever it is. -/
def charOf (n : Nat) : Char := if n.isValidChar then Char.ofNat n else '�'

def simple? : Char → Option Char
  | '\\' => some '\\'
  | '\'' => some '\''
  | '"' => some '"'
  | 'a' => some '\x07'
  | 'b' => some '\x08'
  | 'f' => some '\x0c'
  | 'n' => some '\n'
  | 'r' => some '\r'
  | 't' => some '\t'
  | 'v' => some '\x0b'
  | _ => none

/-- Exactly `count` hexadecimal digits and the rest. -/
def hexDigits (count : Nat) (cs : List Char) : Option (Nat × List Char) :=
  let ds := cs.take count
  if ds.length = count && ds.all Number.isHexDigit then
    some (Number.ofDigits 16 ds, cs.drop count)
  else none

/-- One to three octal digits and the rest. -/
def octalDigits (cs : List Char) : Nat × List Char :=
  let ds := (cs.take 3).takeWhile Number.isOctalDigit
  (Number.ofDigits 8 ds, cs.drop ds.length)

/-- A character given by its name in braces, and the rest. -/
def named : List Char → Option (Char × List Char)
  | '\x7b' :: cs => do
    let name := cs.takeWhile (· != '\x7d')
    let c ← Text.CharacterName.find? name
    match cs.drop name.length with
    | _ :: rest => some (c, rest)
    | [] => none
  | _ => none

/-- What stands for the characters behind a backslash, and the rest. `wide` allows the escapes that
name characters beyond a byte. An unknown escape stands for itself, as does a backslash at the end.
-/
def decodeOne (wide : Bool) : List Char → Option (List Char × List Char)
  | [] => some (['\\'], [])
  | '\n' :: rest => some ([], rest)
  | 'x' :: rest => (hexDigits 2 rest).map fun (n, rest) => ([charOf n], rest)
  | c :: rest =>
    match simple? c with
    | some d => some ([d], rest)
    | none =>
      if Number.isOctalDigit c then
        let (n, rest) := octalDigits (c :: rest)
        some ([charOf n], rest)
      else if wide && c == 'u' then (hexDigits 4 rest).map fun (n, rest) => ([charOf n], rest)
      else if wide && c == 'U' then do
        let (n, rest) ← hexDigits 8 rest
        if 0x10ffff < n then none else some ([charOf n], rest)
      else if wide && c == 'N' then (named rest).map fun (c, rest) => ([c], rest)
      else some (['\\', c], rest)

/-- Decodes all escapes. The number bounds the steps, each of which consumes a character. -/
def decodeAll (wide : Bool) : Nat → List Char → Option (List Char)
  | 0, cs => if cs.isEmpty then some [] else none
  | _ + 1, [] => some []
  | n + 1, '\\' :: rest => do
    let (cs, rest) ← decodeOne wide rest
    (decodeAll wide n rest).map (cs ++ ·)
  | n + 1, c :: rest => (decodeAll wide n rest).map (c :: ·)

def decode (wide : Bool) (cs : List Char) : Option (List Char) := decodeAll wide cs.length cs

end Escape

/-- The text of a literal that is not formatted. Bytes must be ASCII. -/
def StringToken.text? (t : StringToken) : Option (List Char) :=
  if t.bytes && t.body.any (fun c => 128 ≤ c.toNat) then none
  else if t.raw then some t.body
  else Escape.decode (!t.bytes) t.body

/-! ## Formatted strings -/

/-- A piece of a formatted string. -/
inductive Piece where
  | text
  | field (source : List Char) (format : List Piece)
deriving Repr

namespace Piece

/-- What is open while a field is scanned: brackets, and the quote of a string with whether it is
threefold. -/
structure Scan where
  brackets : List Char := []
  quote : Option (Char × Bool) := none

/-- Whether a sign and its successor form a comparison, which does not end a field. -/
def isComparison (c : Char) (next : Option Char) : Bool :=
  (c == '!' || c == '=' || c == '<' || c == '>') && next == some '='

def opening? : Char → Option Char
  | ')' => some '('
  | ']' => some '['
  | '\x7d' => some '\x7b'
  | _ => none

/-- Brackets in a field may not be nested deeper than this. -/
def bracketLimit : Nat := 200

/-- The source of a field and what follows it, from a sign that may end a field. -/
def scanField : Nat → Scan → List Char → Option (List Char × List Char)
  | 0, _, _ => none
  | _ + 1, _, [] => none
  | n + 1, s, c :: rest =>
    let keep (count : Nat) (s : Scan) : Option (List Char × List Char) :=
      (scanField n s ((c :: rest).drop count)).map fun (cs, rest') =>
        ((c :: rest).take count ++ cs, rest')
    if c == '\\' then none
    else match s.quote with
    | some (q, threefold) =>
      if c != q then keep 1 s
      else if !threefold then keep 1 { s with quote := none }
      else if rest.take 2 == [q, q] then keep 3 { s with quote := none }
      else keep 1 s
    | none =>
      if c == '\'' || c == '"' then
        if rest.take 2 == [c, c] then keep 3 { s with quote := some (c, true) }
        else keep 1 { s with quote := some (c, false) }
      else if c == '(' || c == '[' || c == '\x7b' then
        if bracketLimit ≤ s.brackets.length then none
        else keep 1 { s with brackets := c :: s.brackets }
      else if c == '#' then none
      else if s.brackets.isEmpty && isComparison c rest.head? then keep 2 s
      else if s.brackets.isEmpty && (c == '!' || c == ':' || c == '\x7d' || c == '=') then
        some ([], c :: rest)
      else match opening? c with
        | some o =>
          match s.brackets with
          | b :: outer => if b = o then keep 1 { s with brackets := outer } else none
          | [] => none
        | none => keep 1 s

/-- Blanks that may surround the source of a field. -/
def isFieldBlank (c : Char) : Bool := c == ' ' || c == '\t' || c == '\n' || c == '\x0c' || c == '\r'

/-- Drops an equals sign, which asks for the source of the field to be shown, and blanks after it.
-/
def dropShown : List Char → List Char
  | '=' :: rest => rest.dropWhile fun c => isFieldBlank c || c == '\x0b'
  | cs => cs

/-- Drops a conversion. -/
def dropConversion : List Char → Option (List Char)
  | '!' :: c :: rest => if c == 's' || c == 'r' || c == 'a' then some rest else none
  | ['!'] => none
  | cs => some cs

/-- How many characters a name in braces takes, or none if no name follows. -/
def namedLength : List Char → Nat
  | '\x7b' :: cs => 1 + (cs.takeWhile (· != '\x7d')).length + 1
  | _ => 0

/-- Literal text up to the next field or the end; inside a format also up to the brace that closes
the field. Outside a format a doubled brace stands for itself. The braces around the name of a
character do not count. Returns the text and the rest. -/
def literal (raw inFormat : Bool) : Nat → List Char → Option (List Char × List Char)
  | 0, cs => if cs.isEmpty then some ([], []) else none
  | _ + 1, [] => some ([], [])
  | n + 1, c :: rest =>
    let keep (count : Nat) : Option (List Char × List Char) :=
      (literal raw inFormat n ((c :: rest).drop count)).map fun (cs, rest') =>
        ((c :: rest).take count ++ cs, rest')
    let isBrace (c : Char) : Bool := c == '\x7b' || c == '\x7d'
    if !raw && c == '\\' then
      match rest with
      | [] => keep 1
      | 'N' :: after => keep (2 + namedLength after)
      | d :: _ => if isBrace d then keep 1 else keep 2
    else if !isBrace c then keep 1
    else if inFormat then some ([], c :: rest)
    else if rest.head? = some c then
      (literal raw inFormat n (rest.drop 1)).map fun (cs, rest') => (c :: cs, rest')
    else if c == '\x7d' then none
    else some ([], c :: rest)

/-- Fields may be nested this deep. -/
def nestingLimit : Nat := 2

/-- Divides a formatted string into pieces, up to the brace that closes the field it is the format
of, if it is a format. Returns the pieces and the rest. -/
def divide (raw : Bool) : Nat → Nat → List Char → Option (List Piece × List Char)
  | 0, _, _ => none
  | n + 1, level, cs => do
    let (lit, rest) ← literal raw (level ≠ 0) cs.length cs
    -- Literal text must decode even though its value is not needed.
    let _ ← if raw then some lit else Escape.decode true lit
    match rest with
    | '\x7b' :: inner =>
      if nestingLimit ≤ level then none
      else do
        let (source, after) ← scanField (inner.length + 1) {} inner
        if source.all isFieldBlank then none
        let after ← dropConversion (dropShown after)
        let (format, after) ← match after with
          | ':' :: spec => divide raw n (level + 1) spec
          | after => some ([], after)
        match after with
        | '\x7d' :: after => do
          let (pieces, rest) ← divide raw n level after
          some (.text :: .field source format :: pieces, rest)
        | _ => none
    | rest => some ([.text], rest)

def ofBody (raw : Bool) (body : List Char) : Option (List Piece) := do
  let (pieces, rest) ← divide raw (body.length + 1) 0 body
  if rest.isEmpty then some pieces else none

end Piece

end Componentry.Source
