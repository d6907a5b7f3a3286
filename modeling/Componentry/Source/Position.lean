import Componentry.Text.Lines

/-!
# Source positions

A position is a line, counted from one, and a column in UTF-8 bytes, counted from zero.
-/

namespace Componentry.Source

structure Pos where
  line : Nat
  column : Nat
deriving DecidableEq, Repr

def Pos.start : Pos := ⟨1, 0⟩

def Pos.step (p : Pos) (c : Char) : Pos :=
  if c = '\n' then ⟨p.line + 1, 0⟩ else ⟨p.line, p.column + c.utf8Size⟩

def Pos.after (p : Pos) (cs : List Char) : Pos := cs.foldl Pos.step p

/-- The extent of a construct, from its first character to behind its last. -/
structure Span where
  start : Pos
  stop : Pos
deriving DecidableEq, Repr

end Componentry.Source
