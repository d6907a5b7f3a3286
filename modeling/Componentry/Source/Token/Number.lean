import Componentry.Decimal.Limit
import Componentry.Source.Token

/-!
# Numeric literals

The longest numeric literal at the front of a text. Digits may be grouped by single underscores, a
decimal whole number has no leading zeros, and a literal does not run into a name, except for the
few words that may follow a value.
-/

namespace Componentry.Source.Number

/-- Digits with single underscores between them, and the rest. Fails at an underscore that no digit
follows. -/
def run (isDigit : Char → Bool) : List Char → Option (List Char × List Char)
  | [] => some ([], [])
  | '_' :: [] => none
  | '_' :: d :: rest =>
    if isDigit d then (run isDigit rest).map fun (ds, rest) => (d :: ds, rest) else none
  | c :: rest =>
    if isDigit c then (run isDigit rest).map fun (ds, rest) => (c :: ds, rest)
    else some ([], c :: rest)

/-- Whether a character may belong to a name; beyond ASCII every character counts. -/
def isNamePart (c : Char) : Bool := c.isAlphanum || c == '_' || 128 ≤ c.toNat

/-- Whether a numeric literal may end before the given text. -/
def endsBefore : List Char → Bool
  | [] => true
  | 'a' :: 'n' :: 'd' :: _ => true
  | 'e' :: 'l' :: 's' :: 'e' :: _ => true
  | 'f' :: 'o' :: 'r' :: _ => true
  | 'i' :: 'f' :: _ => true
  | 'i' :: 'n' :: _ => true
  | 'i' :: 's' :: _ => true
  | 'o' :: 'r' :: _ => true
  | 'n' :: 'o' :: 't' :: _ => true
  | c :: _ => !isNamePart c

def digitValue (c : Char) : Nat :=
  if c.isDigit then c.toNat - '0'.toNat
  else if c.isLower then c.toNat - 'a'.toNat + 10
  else c.toNat - 'A'.toNat + 10

def ofDigits (base : Nat) (ds : List Char) : Nat := ds.foldl (fun n c => n * base + digitValue c) 0

def isHexDigit (c : Char) : Bool := c.isDigit || ('a' ≤ c && c ≤ 'f') || ('A' ≤ c && c ≤ 'F')

def isOctalDigit (c : Char) : Bool := '0' ≤ c && c ≤ '7'

def isBinaryDigit (c : Char) : Bool := c == '0' || c == '1'

/-- The digits of a whole number after a letter that gives its base. -/
def based (base : Nat) (isDigit : Char → Bool) (cs : List Char) : Option (Number × List Char) := do
  let (ds, rest) ← run isDigit cs
  if ds.isEmpty then none
  else if (rest.head?.map Char.isDigit).getD false then none
  else if endsBefore rest then some (.int (ofDigits base ds), rest)
  else none

def decimalEnd (whole : List Char) (fraction : Option (List Char)) (exponent : Option Int)
    (cs : List Char) : Option (Number × List Char) :=
  let isImaginary := match cs with
    | c :: _ => c == 'j' || c == 'J'
    | [] => false
  if isImaginary then
    if endsBefore (cs.drop 1) then some (.imaginary, cs.drop 1) else none
  else if !endsBefore cs then none
  else
    match fraction, exponent with
    | none, none =>
      -- Zero may have any number of digits; any other whole number has no leading zeros.
      if whole.all (· == '0') then some (.int 0, cs)
      else if whole.head? == some '0' || digitLimit < whole.length then none
      else some (.int (ofDigits 10 whole), cs)
    | f, e => some (.float (Binary64.ofDecimal false whole (f.getD []) (e.getD 0)), cs)

/-- The exponent of a decimal literal, if one follows. -/
def decimalExponent (whole : List Char) (fraction : Option (List Char)) (cs : List Char) :
    Option (Number × List Char) :=
  match cs with
  | e :: rest =>
    if e == 'e' || e == 'E' then
      match rest with
      | s :: d :: _ =>
        if s == '+' || s == '-' then
          if d.isDigit then do
            let (ds, rest) ← run Char.isDigit (rest.drop 1)
            let n : Int := ofDigits 10 ds
            decimalEnd whole fraction (some (if s == '-' then -n else n)) rest
          else none
        else if s.isDigit then do
          let (ds, rest) ← run Char.isDigit rest
          decimalEnd whole fraction (some (ofDigits 10 ds)) rest
        else decimalEnd whole fraction none cs
      | [s] =>
        if s == '+' || s == '-' then none
        else if s.isDigit then decimalEnd whole fraction (some (ofDigits 10 [s])) []
        else decimalEnd whole fraction none cs
      | [] => decimalEnd whole fraction none cs
    else decimalEnd whole fraction none cs
  | [] => decimalEnd whole fraction none cs

def decimalFraction (whole cs : List Char) : Option (Number × List Char) :=
  match cs with
  | d :: _ =>
    if d.isDigit then do
      let (ds, rest) ← run Char.isDigit cs
      decimalExponent whole (some ds) rest
    else decimalExponent whole (some []) cs
  | [] => decimalExponent whole (some []) cs

/-- The numeric literal at the front of a text that starts with a digit, or with a point and a
digit. -/
def lex (cs : List Char) : Option (Number × List Char) :=
  match cs with
  | '0' :: 'x' :: rest => based 16 isHexDigit rest
  | '0' :: 'X' :: rest => based 16 isHexDigit rest
  | '0' :: 'o' :: rest => based 8 isOctalDigit rest
  | '0' :: 'O' :: rest => based 8 isOctalDigit rest
  | '0' :: 'b' :: rest => based 2 isBinaryDigit rest
  | '0' :: 'B' :: rest => based 2 isBinaryDigit rest
  | '.' :: rest => decimalFraction [] rest
  | _ => do
    let (whole, rest) ← run Char.isDigit cs
    match rest with
    | '.' :: rest => decimalFraction whole rest
    | rest => decimalExponent whole none rest

end Componentry.Source.Number
