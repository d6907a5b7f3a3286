import Componentry.Typing.Resolve

/-!
# Plans for type dispatch

A dispatch is an ordered list of clauses, each a type with a branch, and perhaps a default. A `Plan`
says which clauses are worth testing when the static type of the subject is known: an exact match
needs no test at all, unrelated clauses cannot match, and nothing runs after a clause that always
matches.
-/

namespace Componentry

/-- A type and what to do with a subject of that type. -/
structure Clause (α : Type) where
  type : HostType
  branch : α

/-- Which clauses of a dispatch survive. -/
inductive Plan (α : Type) where
  /-- Nothing is known about the subject: every clause is tested. -/
  | full (clauses : List (Clause α))
  /-- A clause names the subject's static type: it runs without a test. -/
  | exact (type : HostType) (clause : Clause α)
  /-- Some clauses may match. -/
  | pruned (type : HostType) (clauses : List (Clause α))
  /-- No clause can match: the default runs. -/
  | fallback (type : HostType)

namespace Plan

/-- The clauses that can match a subject of type `t`, up to the first that always does. -/
def survivors (r : Registry) (t : HostType) : List (Clause α) → List (Clause α)
  | [] => []
  | c :: rest =>
    if !r.areRelated t c.type then survivors r t rest
    else if r.isSubtype t c.type then [c]
    else c :: survivors r t rest

/-- The plan for a subject of the given static type. The first clause that names exactly this type
wins even over earlier clauses for its subtypes. -/
def make (r : Registry) (static : Option HostType) (clauses : List (Clause α)) : Plan α :=
  match static with
  | none => .full clauses
  | some t =>
    match clauses.find? (·.type.fullName == t.fullName) with
    | some c => .exact t c
    | none =>
      match survivors r t clauses with
      | [] => .fallback t
      | c :: rest => .pruned t (c :: rest)

def staticType : Plan α → Option HostType
  | full _ => none
  | exact t _ => some t
  | pruned t _ => some t
  | fallback t => some t

def clauses : Plan α → List (Clause α)
  | full cs => cs
  | exact _ c => [c]
  | pruned _ cs => cs
  | fallback _ => []

/-- The most type tests that a dispatch makes when it runs. -/
def typeTests : Plan α → Nat
  | full cs => cs.length
  | exact _ _ => 0
  | pruned _ cs => cs.length
  | fallback _ => 0

end Plan

def resolveClauses (r : Registry) : List (String × α) → Except Registry.Error (List (Clause α))
  | [] => .ok []
  | (designator, branch) :: rest => do
    let type ← r.ensure designator
    let rest ← resolveClauses r rest
    .ok (⟨type, branch⟩ :: rest)

/-- The static type of a dispatch's subject: that of its value, or of the name it is bound to if
that is more specific. -/
def subjectType (r : Registry) (env : TypeEnv) (value : Ir.Expr) (bindType : Option HostType) :
    Option HostType :=
  mostSpecific r [resolve r env value, bindType]

def planDispatch (r : Registry) (env : TypeEnv) (value : Ir.Expr) (bindType : Option HostType)
    (clauses : List (String × α)) : Except Registry.Error (Plan α) := do
  let clauses ← resolveClauses r clauses
  .ok (.make r (subjectType r env value bindType) clauses)

end Componentry
