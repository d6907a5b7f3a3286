import Componentry.Diagnostic.Basic

/-!
# The state of a compilation

A compilation either gives a result or is refused with a diagnostic. What it leaves behind on the
way is kept in both cases: the number of generated names, the static types recorded for type
dispatches, and the warnings.
-/

namespace Componentry

/-- What a compilation leaves behind. -/
structure Trace where
  generated : Nat := 0
  /-- The full name of the static type of every dispatch, or nothing where it was unknown. -/
  log : List (Option String) := []
  warnings : List Warning := []
deriving DecidableEq, Repr

abbrev CompileM := ExceptT Diagnostic (StateM Trace)

namespace CompileM

def refuse (place : Option Place) (cause : Cause) : CompileM α := throw ⟨cause, place⟩

def refuseAt (span : Source.Span) (cause : Cause) : CompileM α := refuse (some (.ofSpan span)) cause

/-- Goes on with a type, or refuses it at a place. -/
def ofRegistry (place : Option Place) : Except Registry.Error α → CompileM α
  | .ok a => pure a
  | .error e => refuse place (.registry e)

/-- A name that no source may use. -/
def fresh (stem : String) : CompileM String := do
  let t ← get
  let n := t.generated + 1
  set { t with generated := n }
  return generatedStart ++ stem ++ toString n

def record (type : Option HostType) : CompileM Unit :=
  modify fun t => { t with log := t.log ++ [type.map HostType.fullName] }

def warn (w : Warning) : CompileM Unit := modify fun t => { t with warnings := t.warnings ++ [w] }

end CompileM

/-- What became of a compilation. -/
structure Outcome (α : Type) where
  result : Except Diagnostic α
  log : List (Option String)
  warnings : List Warning

def CompileM.outcome (x : CompileM α) : Outcome α :=
  let (result, trace) := x.run.run {}
  ⟨result, trace.log, trace.warnings⟩

end Componentry
