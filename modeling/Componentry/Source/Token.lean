import Componentry.Decimal.Binary64
import Componentry.Source.Position

/-!
# Tokens

The words of a source text: names, reserved words, numbers, strings and signs, and the marks for the
ends of logical lines and for changes of indentation.
-/

namespace Componentry.Source

inductive Word where
  | kFalse | kNone | kTrue | kAnd | kAs | kAssert | kAsync | kAwait | kBreak | kClass | kContinue
  | kDef | kDel | kElif | kElse | kExcept | kFinally | kFor | kFrom | kGlobal | kIf | kImport
  | kIn | kIs | kLambda | kNonlocal | kNot | kOr | kPass | kRaise | kReturn | kTry | kWhile
  | kWith | kYield
deriving DecidableEq, Repr

def Word.table : List (String × Word) :=
  [("False", .kFalse), ("None", .kNone), ("True", .kTrue), ("and", .kAnd), ("as", .kAs),
    ("assert", .kAssert), ("async", .kAsync), ("await", .kAwait), ("break", .kBreak),
    ("class", .kClass), ("continue", .kContinue), ("def", .kDef), ("del", .kDel),
    ("elif", .kElif), ("else", .kElse), ("except", .kExcept), ("finally", .kFinally),
    ("for", .kFor), ("from", .kFrom), ("global", .kGlobal), ("if", .kIf), ("import", .kImport),
    ("in", .kIn), ("is", .kIs), ("lambda", .kLambda), ("nonlocal", .kNonlocal), ("not", .kNot),
    ("or", .kOr), ("pass", .kPass), ("raise", .kRaise), ("return", .kReturn), ("try", .kTry),
    ("while", .kWhile), ("with", .kWith), ("yield", .kYield)]

def Word.ofText? (s : String) : Option Word := (Word.table.find? (·.1 == s)).map Prod.snd

inductive Sign where
  | lpar | rpar | lsqb | rsqb | lbrace | rbrace | colon | comma | semi | plus | minus | star
  | slash | vbar | amper | less | greater | equal | dot | percent | eqEqual | notEqual | lessEqual
  | greaterEqual | tilde | circumflex | leftShift | rightShift | doubleStar | plusEqual | minEqual
  | starEqual | slashEqual | percentEqual | amperEqual | vbarEqual | circumflexEqual
  | leftShiftEqual | rightShiftEqual | doubleStarEqual | doubleSlash | doubleSlashEqual | at
  | atEqual | rarrow | ellipsis | colonEqual
deriving DecidableEq, Repr

/-- The spelling of signs, longer ones first. -/
def Sign.table : List (String × Sign) :=
  [("<<=", .leftShiftEqual), (">>=", .rightShiftEqual), ("**=", .doubleStarEqual),
    ("//=", .doubleSlashEqual), ("...", .ellipsis), ("==", .eqEqual), ("!=", .notEqual),
    ("<=", .lessEqual), (">=", .greaterEqual), ("<<", .leftShift), (">>", .rightShift),
    ("**", .doubleStar), ("+=", .plusEqual), ("-=", .minEqual), ("*=", .starEqual),
    ("/=", .slashEqual), ("%=", .percentEqual), ("&=", .amperEqual), ("|=", .vbarEqual),
    ("^=", .circumflexEqual), ("//", .doubleSlash), ("@=", .atEqual), ("->", .rarrow),
    (":=", .colonEqual), ("(", .lpar), (")", .rpar), ("[", .lsqb), ("]", .rsqb),
    ("\x7b", .lbrace), ("\x7d", .rbrace), (":", .colon), (",", .comma), (";", .semi),
    ("+", .plus), ("-", .minus), ("*", .star), ("/", .slash), ("|", .vbar), ("&", .amper),
    ("<", .less), (">", .greater), ("=", .equal), (".", .dot), ("%", .percent), ("~", .tilde),
    ("^", .circumflex), ("@", .at)]

/-- A numeric literal. Whole numbers and doubles have values that components may use. -/
inductive Number where
  | int (value : Nat)
  | float (value : Binary64)
  | imaginary
deriving DecidableEq, Repr

/-- A string literal: the kind that its letters in front give, and the characters between its
quotes. -/
structure StringToken where
  raw : Bool
  bytes : Bool
  formatted : Bool
  body : List Char
deriving DecidableEq, Repr

inductive Lexeme where
  /-- A name in its normal form. `verbatim` tells whether it is written in that form: only then can
  it be a word where the grammar expects one. -/
  | name (id : String) (verbatim : Bool)
  | word (word : Word)
  | number (value : Number)
  | string (value : StringToken)
  | sign (sign : Sign)
  | newline
  | indent
  | dedent
  | finish
deriving DecidableEq, Repr

structure Token where
  lexeme : Lexeme
  span : Span
deriving DecidableEq, Repr

end Componentry.Source
