import Componentry.Text.Identifier.Ranges
import Componentry.Text.Ranges

/-!
# Identifiers and reserved words

Which texts are identifiers of the source language, and which of those are reserved.
-/

namespace Componentry.Text

/-- ASCII letters, the underscore, and the letters of Unicode. -/
def isIdentifierStart (c : Char) : Bool :=
  if c.toNat < 128 then c.isAlpha || c == '_' else inRanges c.toNat identifierStarts

/-- What may follow the first character: also digits and combining marks. -/
def isIdentifierPart (c : Char) : Bool :=
  if c.toNat < 128 then c.isAlphanum || c == '_'
  else inRanges c.toNat identifierStarts || inRanges c.toNat identifierExtenders

/-- Whether a text is an identifier. Reserved words are identifiers too. -/
def isIdentifier (s : String) : Bool :=
  match s.toList with
  | [] => false
  | c :: rest => isIdentifierStart c && rest.all isIdentifierPart

def reservedWords : List String :=
  ["False", "None", "True", "and", "as", "assert", "async", "await", "break", "class", "continue",
    "def", "del", "elif", "else", "except", "finally", "for", "from", "global", "if", "import",
    "in", "is", "lambda", "nonlocal", "not", "or", "pass", "raise", "return", "try", "while",
    "with", "yield"]

def isReserved (s : String) : Bool := reservedWords.contains s

end Componentry.Text
