import Componentry.Decimal.Written
import Componentry.Json.Basic
import Componentry.Text.Lines
import Componentry.Text.Order
import Componentry.Text.Quoted

/-!
# Writing JSON

Both layouts use ASCII only and order the members of an object by name. `line` puts a document on
one line; `indented` puts every item and member on its own line, two blanks deeper than its
container.
-/

namespace Componentry.Json

def unitEscape (n : Nat) : List Char := '\\' :: 'u' :: Text.hex 4 n

/-- One character of a JSON string. Beyond the basic plane it is written as a surrogate pair. -/
def escapeChar (c : Char) : List Char :=
  if c == '"' || c == '\\' then ['\\', c]
  else if c == '\n' then ['\\', 'n']
  else if c == '\r' then ['\\', 'r']
  else if c == '\t' then ['\\', 't']
  else if c == '\x08' then ['\\', 'b']
  else if c == '\x0c' then ['\\', 'f']
  else
    let n := c.toNat
    if 32 ≤ n && n < 127 then [c]
    else if n < 0x10000 then unitEscape n
    else
      let m := n - 0x10000
      unitEscape (0xD800 + m / 0x400) ++ unitEscape (0xDC00 + m % 0x400)

def quoteText (s : String) : String :=
  String.ofList ('"' :: s.toList.flatMap escapeChar ++ ['"'])

/-- The JSON form of a double, with words for the values that are not finite. -/
def floatText : Binary64 → String
  | .finite s m e => Binary64.writeFinite s m e
  | .infinite false => "Infinity"
  | .infinite true => "-Infinity"
  | .nan => "NaN"

def intText (n : Int) : String :=
  if n < 0 then "-" ++ Nat.repr n.natAbs else Nat.repr n.natAbs

def boolText (b : Bool) : String := if b then "true" else "false"

mutual

def line : Json → String
  | .null => "null"
  | .bool b => boolText b
  | .int n => intText n
  | .float x => floatText x
  | .str s => quoteText s
  | .arr items => "[" ++ Text.joinWith ", " (lineItems items) ++ "]"
  | .obj members =>
    let texts := (Text.sortBy Prod.fst (lineMembers members)).map
      fun m => quoteText m.1 ++ ": " ++ m.2
    "\x7b" ++ Text.joinWith ", " texts ++ "\x7d"

def lineItems : List Json → List String
  | [] => []
  | j :: rest => line j :: lineItems rest

def lineMembers : List (String × Json) → List (String × String)
  | [] => []
  | (k, j) :: rest => (k, line j) :: lineMembers rest

end

def newline (depth : Nat) : String := String.ofList ('\n' :: List.replicate (2 * depth) ' ')

/-- Encloses indented parts, or writes the empty container on one line. -/
def enclose (opening closing : String) (depth : Nat) (parts : List String) : String :=
  if parts.isEmpty then opening ++ closing
  else
    let sep := newline (depth + 1)
    opening ++ sep ++ Text.joinWith ("," ++ sep) parts ++ newline depth ++ closing

mutual

/-- A document with one item or member a line, at the given depth. -/
def indentedAt (depth : Nat) : Json → String
  | .null => "null"
  | .bool b => boolText b
  | .int n => intText n
  | .float x => floatText x
  | .str s => quoteText s
  | .arr items => enclose "[" "]" depth (indentedItems (depth + 1) items)
  | .obj members =>
    let texts := (Text.sortBy Prod.fst (indentedMembers (depth + 1) members)).map
      fun m => quoteText m.1 ++ ": " ++ m.2
    enclose "\x7b" "\x7d" depth texts

def indentedItems (depth : Nat) : List Json → List String
  | [] => []
  | j :: rest => indentedAt depth j :: indentedItems depth rest

def indentedMembers (depth : Nat) : List (String × Json) → List (String × String)
  | [] => []
  | (k, j) :: rest => (k, indentedAt depth j) :: indentedMembers depth rest

end

def indented (j : Json) : String := indentedAt 0 j

end Componentry.Json
