/-!
# Lines of a text

Two rules divide a text into lines. Source positions count lines that end at a line feed, a carriage
return or the pair of both; quoting a line of a text for a reader also ends lines at the other
separators. In both, a final line end opens no further line.
-/

namespace Componentry.Text

/-- A line and the characters that ended it. -/
structure Line where
  content : List Char
  ending : List Char
deriving DecidableEq, Repr

def Line.full (l : Line) : List Char := l.content ++ l.ending

/-- Divides a text at the characters of `isBreak`; a carriage return and a line feed together are
one end. `current` is the line so far, last character first. -/
def divide (isBreak : Char → Bool) (current : List Char) : List Char → List Line
  | [] => if current.isEmpty then [] else [⟨current.reverse, []⟩]
  | '\r' :: '\n' :: rest => ⟨current.reverse, ['\r', '\n']⟩ :: divide isBreak [] rest
  | c :: rest =>
    if isBreak c then ⟨current.reverse, [c]⟩ :: divide isBreak [] rest
    else divide isBreak (c :: current) rest

def isSourceBreak (c : Char) : Bool := c == '\n' || c == '\r'

/-- The ends of lines when a text is quoted. -/
def isQuoteBreak (c : Char) : Bool :=
  let n := c.toNat
  (10 ≤ n && n ≤ 13) || (28 ≤ n && n ≤ 30) || n == 0x85 || n == 0x2028 || n == 0x2029

def sourceLines (cs : List Char) : List Line := divide isSourceBreak [] cs

def quoteLines (cs : List Char) : List (List Char) := (divide isQuoteBreak [] cs).map Line.content

/-- Makes every source line end in a line feed. -/
def uniformEnds : List Char → List Char
  | [] => []
  | '\r' :: '\n' :: rest => '\n' :: uniformEnds rest
  | '\r' :: rest => '\n' :: uniformEnds rest
  | c :: rest => c :: uniformEnds rest

def byteLength (cs : List Char) : Nat := cs.foldl (fun n c => n + c.utf8Size) 0

/-- The characters whose UTF-8 form starts at a byte offset in `[start, stop)`, where the first
character has offset `offset`. -/
def byteSlice (start stop : Int) (offset : Int) : List Char → List Char
  | [] => []
  | c :: rest =>
    let tail := byteSlice start stop (offset + c.utf8Size) rest
    if start ≤ offset && offset < stop then c :: tail else tail

def joinWith (sep : String) : List String → String
  | [] => ""
  | [s] => s
  | s :: rest => s ++ sep ++ joinWith sep rest

end Componentry.Text
