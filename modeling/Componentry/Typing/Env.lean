import Componentry.Host.Registry

/-!
# Static type environments

What is known about names inside one definition: the static types of local names, which of them were
declared with a type, the module-level values and the helper functions. A local name may be bound
without a known type.
-/

namespace Componentry

/-- Names in scope with their static types; `none` stands for an unknown type. -/
structure TypeEnv where
  locals : Table (Option HostType) := .empty
  declared : List String := []
  globals : Table (Option HostType) := .empty
  callables : List String := []
  hostTypes : List String := []
deriving DecidableEq, Repr

namespace TypeEnv

def bind (env : TypeEnv) (name : String) (type : Option HostType) : TypeEnv :=
  { env with locals := env.locals.put name type }

def isDeclared (env : TypeEnv) (name : String) : Bool := env.declared.contains name

/-- Binds a local name and marks it as declared. -/
def declare (env : TypeEnv) (name : String) (type : Option HostType) : TypeEnv :=
  { env.bind name type with
    declared := if env.isDeclared name then env.declared else env.declared ++ [name] }

/-- Drops what is known of names that were not declared. They stay bound. -/
def forget (env : TypeEnv) (names : List String) : TypeEnv :=
  { env with
    locals := names.foldl
      (fun table name => if env.isDeclared name then table else table.put name none) env.locals }

def isLocal (env : TypeEnv) (name : String) : Bool := env.locals.contains name

def localType (env : TypeEnv) (name : String) : Option HostType := (env.locals.get? name).join

def declaredType (env : TypeEnv) (name : String) : Option HostType :=
  if env.isDeclared name then env.localType name else none

def knows (env : TypeEnv) (name : String) : Bool :=
  env.locals.contains name || env.globals.contains name || env.callables.contains name ||
    env.hostTypes.contains name

/-! ## Joining paths -/

/-- The type on which all branches agree, if each of them binds the name. -/
def agreed (branches : List TypeEnv) (name : String) : Option HostType :=
  match branches.map (·.locals.get? name) with
  | some type :: rest => if rest.all (· == some type) then type else none
  | _ => none

/-- The type of a name after branches join: declared names keep theirs. -/
def joined (base : TypeEnv) (branches : List TypeEnv) (name : String) : Option HostType :=
  if base.isDeclared name then base.localType name else agreed branches name

/-- Joins the environments of branches that started from `base`: a name keeps its type only if every
path agrees, and stays declared if it is declared on any path. -/
def merge (base : TypeEnv) (branches : List TypeEnv) : TypeEnv :=
  let names := ((base :: branches).flatMap (·.locals.keys)).eraseDups
  { base with
    locals := ⟨names.map fun name => (name, joined base branches name)⟩
    declared := ((base :: branches).flatMap (·.declared)).eraseDups }

end TypeEnv

end Componentry
