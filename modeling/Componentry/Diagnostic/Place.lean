import Componentry.Source.Position
import Componentry.Text.Blank

/-!
# Places and excerpts

A diagnostic points to a place in the source and quotes the first line of the code there. A place
may be known in part only: without a line nothing is said about it, without an end its whole line is
quoted.
-/

namespace Componentry

/-- Where something stands, as far as it is known. Lines count from one and columns from zero, in
bytes. -/
structure Place where
  line : Option Int := none
  column : Option Int := none
  endLine : Option Int := none
  endColumn : Option Int := none
deriving DecidableEq, Repr

namespace Place

def ofSpan (s : Source.Span) : Place :=
  { line := some s.start.line, column := some s.start.column, endLine := some s.stop.line
    endColumn := some s.stop.column }

/-- The member at an index; negative indices count from the end. -/
def memberAt? (xs : List α) (i : Int) : Option α :=
  let i := if i < 0 then i + xs.length else i
  if i < 0 then none else xs[i.toNat]?

/-- The members from one index up to another; negative indices count from the end. -/
def membersBetween (start stop : Int) (xs : List α) : List α :=
  let fromEnd (i : Int) : Nat := (if i < 0 then i + xs.length else i).toNat
  (xs.take (fromEnd stop)).drop (fromEnd start)

/-- The bytes from one offset to another; negative offsets count from the end. -/
def cut (start stop : Int) (cs : List Char) : List Char :=
  let fromEnd (i : Int) : Int := if i < 0 then i + Text.byteLength cs else i
  Text.byteSlice (fromEnd start) (fromEnd stop) 0 cs

/-- The text that a place covers, if both its ends are known. -/
def segment? (p : Place) (source : List Char) : Option (List Char) :=
  match p.line, p.column, p.endLine, p.endColumn with
  | some line, some column, some endLine, some endColumn => do
    let lines := (Text.sourceLines source).map Text.Line.full
    let first ← memberAt? lines (line - 1)
    if line = endLine then return cut column endColumn first
    let last ← memberAt? lines (endLine - 1)
    let between := membersBetween line (endLine - 1) lines
    return cut column (Text.byteLength first) first ++ between.flatten ++ cut 0 endColumn last
  | _, _, _, _ => none

def lineOf? (line : Int) (source : List Char) : Option (List Char) :=
  if 0 < line then (Text.quoteLines source)[line.toNat - 1]? else none

/-- The first line of the code at a place. -/
def excerpt? (p : Place) (line : Int) (source : List Char) : Option (List Char) := do
  let segment ← match p.segment? source with
    | some cs => if Text.isBlankText cs then lineOf? line source else some cs
    | none => lineOf? line source
  (Text.quoteLines (Text.trim segment)).head?

end Place

/-- What a diagnostic says about its place. -/
structure Location where
  line : Int
  column : Int
  code : Option String
deriving DecidableEq, Repr

namespace Location

/-- The location of a place in a source, if its line is known. Columns are shown from one. -/
def of (source : Option String) (p : Place) : Option Location := do
  let line ← p.line
  let code := source.bind fun s => (p.excerpt? line s.toList).map String.ofList
  return ⟨line, p.column.getD 0 + 1, code⟩

def lines (l : Location) : List String :=
  ("Location: line " ++ toString l.line ++ ", column " ++ toString l.column) ::
    match l.code with
    | some code => ["Code: " ++ code]
    | none => []

end Location

def located (source : Option String) (place : Option Place) (message : String) : String :=
  Text.joinWith "\n" (message :: ((place.bind (Location.of source)).map Location.lines).getD [])

end Componentry
