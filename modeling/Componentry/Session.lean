import Componentry.Compile.Module

/-!
# Sessions

A session compiles several sources over one registry of messages, which may grow in between, and
records the static types of all dispatches in one log. A refused source leaves its part of the log
behind.
-/

namespace Componentry

/-- What the next compilation of a session starts from: names are numbered from the beginning again,
warnings are its own, and the log goes on. -/
def Trace.renewed (t : Trace) : Trace := { t with generated := 0, warnings := [] }

/-- A session: the known messages, and what the compilations so far have left behind. -/
structure Session where
  messages : Messages
  policy : DuplicatePolicy := .keepLast
  trace : Trace := {}

namespace Session

/-- The static types of all dispatches so far. -/
def log (s : Session) : List (Option String) := s.trace.log

/-- Declares a message and gives its interface. A refused declaration changes nothing. -/
def register (s : Session) (name : String) (interface : Option String) :
    Except Messages.Error String × Session :=
  match s.messages.register name interface with
  | .ok (full, messages) => (.ok full, { s with messages })
  | .error e => (.error e, s)

def compile (s : Session) (sourcePath moduleName : Option String) (text : String) :
    Outcome Ir.Module × Session :=
  let (result, trace) := (Compile.source s.messages s.policy
    (Compile.moduleNameFor sourcePath moduleName) text).run.run s.trace.renewed
  (⟨result, trace.log, trace.warnings⟩, { s with trace })

end Session

end Componentry
