import Componentry.Decimal.Limit
import Componentry.Json.Basic

/-!
# Reading JSON

The reader takes the values of a document apart and hands each to a `Builder`, inside out and from
left to right. A builder may refuse an object; the refusal comes as soon as the object is closed, so
it comes before any fault further to the right. The words `NaN`, `Infinity` and `-Infinity` are read
as doubles. `Json.parse` is the builder that keeps the tree.

Reading consumes at least one character in every step, so the length of the text bounds the steps.
-/

namespace Componentry.Json

/-- What to make of each kind of value. Only objects can be refused. -/
structure Builder (ε α : Type) where
  null : α
  bool : Bool → α
  int : Int → α
  float : Binary64 → α
  str : String → α
  arr : List α → α
  obj : List (String × α) → Except ε α

/-- Why a text was not read: it is no document, it holds a whole number of too many digits, or the
builder refused an object. -/
inductive Fault (ε : Type) where
  | malformed
  | tooManyDigits (count : Nat)
  | refused (reason : ε)
deriving Repr

variable {ε α : Type}

abbrev Read (ε α : Type) := Except (Fault ε) (α × List Char)

def isSpace (c : Char) : Bool := c == ' ' || c == '\t' || c == '\n' || c == '\r'

def skip (cs : List Char) : List Char := cs.dropWhile isSpace

def hexValue? (c : Char) : Option Nat :=
  if c.isDigit then some (c.toNat - '0'.toNat)
  else if 'a' ≤ c && c ≤ 'f' then some (c.toNat - 'a'.toNat + 10)
  else if 'A' ≤ c && c ≤ 'F' then some (c.toNat - 'A'.toNat + 10)
  else none

def unit? (a b c d : Char) : Option Nat := do
  let a ← hexValue? a
  let b ← hexValue? b
  let c ← hexValue? c
  let d ← hexValue? d
  pure (((a * 16 + b) * 16 + c) * 16 + d)

def isHigh (n : Nat) : Bool := 0xD800 ≤ n && n < 0xDC00

def isLow (n : Nat) : Bool := 0xDC00 ≤ n && n < 0xE000

/-- The character of a UTF-16 unit; half of a pair has none and reads as the replacement
character. -/
def unitChar (n : Nat) : Char := if isHigh n || isLow n then '�' else Char.ofNat n

def shortEscape? : Char → Option Char
  | '"' => some '"'
  | '\\' => some '\\'
  | '/' => some '/'
  | 'b' => some '\x08'
  | 'f' => some '\x0c'
  | 'n' => some '\n'
  | 'r' => some '\r'
  | 't' => some '\t'
  | _ => none

/-- The character that starts with a UTF-16 unit, and the rest. A unit that opens a pair takes a
following unit that closes it. -/
def unitAndRest (high : Nat) (cs : List Char) : Option (Char × List Char) :=
  if isHigh high then
    match cs with
    | '\\' :: 'u' :: a :: b :: c :: d :: rest =>
      match unit? a b c d with
      | none => none
      | some low =>
        if isLow low then
          some (Char.ofNat (0x10000 + (high - 0xD800) * 0x400 + (low - 0xDC00)), rest)
        else some (unitChar high, cs)
    | _ => some (unitChar high, cs)
  else some (unitChar high, cs)

/-- The character that an escape denotes, after its backslash, and the rest. -/
def escaped : List Char → Option (Char × List Char)
  | 'u' :: a :: b :: c :: d :: rest => (unit? a b c d).bind (unitAndRest · rest)
  | e :: rest => (shortEscape? e).map fun c => (c, rest)
  | [] => none

/-- The rest of a string after its opening quote. Control characters must be escaped. -/
def string : Nat → List Char → Option (List Char × List Char)
  | 0, _ => none
  | n + 1, cs =>
    match cs with
    | '"' :: rest => some ([], rest)
    | '\\' :: rest =>
      match escaped rest with
      | none => none
      | some (c, rest) => (string n rest).map fun (text, rest) => (c :: text, rest)
    | c :: rest =>
      if c.toNat < 32 then none
      else (string n rest).map fun (text, rest) => (c :: text, rest)
    | [] => none

/-- The exponent part of a number and what follows it; without digits there is none. -/
def exponent (cs : List Char) : Option (Int × List Char) :=
  match cs with
  | e :: rest =>
    if e == 'e' || e == 'E' then
      let (sign, rest) : Int × List Char := match rest with
        | '-' :: r => (-1, r)
        | '+' :: r => (1, r)
        | r => (1, r)
      let digits := rest.takeWhile Char.isDigit
      if digits.isEmpty then none
      else some (sign * Binary64.natOfDigits digits, rest.dropWhile Char.isDigit)
    else none
  | [] => none

/-- A number. A fraction needs a digit after its point, and a leading zero stands alone. -/
def number (b : Builder ε α) (negative : Bool) (cs : List Char) : Read ε α :=
  let whole := match cs with
    | '0' :: _ => ['0']
    | _ => cs.takeWhile Char.isDigit
  if whole.isEmpty then .error .malformed
  else
    let rest := cs.drop whole.length
    let (fraction, rest) := match rest with
      | '.' :: r =>
        let digits := r.takeWhile Char.isDigit
        if digits.isEmpty then ([], rest) else (digits, r.dropWhile Char.isDigit)
      | _ => ([], rest)
    match exponent rest with
    | some (e, rest) => .ok (b.float (Binary64.ofDecimal negative whole fraction e), rest)
    | none =>
      if fraction.isEmpty then
        if digitLimit < whole.length then .error (.tooManyDigits whole.length)
        else
          let n : Int := Binary64.natOfDigits whole
          .ok (b.int (if negative then -n else n), rest)
      else .ok (b.float (Binary64.ofDecimal negative whole fraction 0), rest)

def word (w : String) (value : α) (cs : List Char) : Read ε α :=
  if w.toList.isPrefixOf cs then .ok (value, cs.drop w.length) else .error .malformed

/-- Puts a member in its place: of two members of one name the later value wins. -/
def addMember (name : String) (value : α) : List (String × α) → List (String × α)
  | [] => [(name, value)]
  | (k, v) :: rest => if k = name then (k, value) :: rest else (k, v) :: addMember name value rest

/-- Hands a closed object to the builder. -/
def finish (b : Builder ε α) (members : List (String × α)) (rest : List Char) : Read ε α :=
  match b.obj members with
  | .ok v => .ok (v, rest)
  | .error reason => .error (.refused reason)

mutual

def value (b : Builder ε α) : Nat → List Char → Read ε α
  | 0, _ => .error .malformed
  | n + 1, cs =>
    match cs with
    | '"' :: rest =>
      match string n rest with
      | some (text, rest) => .ok (b.str (String.ofList text), rest)
      | none => .error .malformed
    | '[' :: rest =>
      match skip rest with
      | ']' :: rest => .ok (b.arr [], rest)
      | rest =>
        match items b n rest with
        | .ok (xs, rest) => .ok (b.arr xs, rest)
        | .error fault => .error fault
    | '\x7b' :: rest =>
      match skip rest with
      | '\x7d' :: rest => finish b [] rest
      | rest =>
        match members b n [] rest with
        | .ok (ms, rest) => finish b ms rest
        | .error fault => .error fault
    | 'n' :: _ => word "null" b.null cs
    | 't' :: _ => word "true" (b.bool true) cs
    | 'f' :: _ => word "false" (b.bool false) cs
    | 'N' :: _ => word "NaN" (b.float .nan) cs
    | 'I' :: _ => word "Infinity" (b.float (.infinite false)) cs
    | '-' :: 'I' :: _ => word "-Infinity" (b.float (.infinite true)) cs
    | '-' :: rest => number b true rest
    | _ => number b false cs

def items (b : Builder ε α) : Nat → List Char → Except (Fault ε) (List α × List Char)
  | 0, _ => .error .malformed
  | n + 1, cs =>
    match value b n cs with
    | .error fault => .error fault
    | .ok (item, rest) =>
      match skip rest with
      | ']' :: rest => .ok ([item], rest)
      | ',' :: rest =>
        match items b n (skip rest) with
        | .ok (more, rest) => .ok (item :: more, rest)
        | .error fault => .error fault
      | _ => .error .malformed

/-- The members of an object up to and including its closing brace, added to those so far. -/
def members (b : Builder ε α) :
    Nat → List (String × α) → List Char → Except (Fault ε) (List (String × α) × List Char)
  | 0, _, _ => .error .malformed
  | n + 1, seen, cs =>
    match cs with
    | '"' :: rest =>
      match string n rest with
      | none => .error .malformed
      | some (name, rest) =>
        match skip rest with
        | ':' :: rest =>
          match value b n (skip rest) with
          | .error fault => .error fault
          | .ok (v, rest) =>
            let seen := addMember (String.ofList name) v seen
            match skip rest with
            | '\x7d' :: rest => .ok (seen, rest)
            | ',' :: rest => members b n seen (skip rest)
            | _ => .error .malformed
        | _ => .error .malformed
    | _ => .error .malformed

end

def read (b : Builder ε α) (text : String) : Except (Fault ε) α :=
  let cs := text.toList
  match value b (cs.length + 1) (skip cs) with
  | .ok (v, rest) => if (skip rest).isEmpty then .ok v else .error .malformed
  | .error fault => .error fault

/-- The builder that keeps the tree. -/
def keep : Builder Empty Json where
  null := .null
  bool := .bool
  int := .int
  float := .float
  str := .str
  arr := .arr
  obj := fun members => .ok (.obj members)

def parse (text : String) : Option Json := (read keep text).toOption

end Componentry.Json
