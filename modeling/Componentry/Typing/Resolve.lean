import Componentry.Host.Model
import Componentry.Ir.Basic
import Componentry.Typing.Env

/-!
# Static types of expressions

`resolve` reads the static type off an expression: an explicit annotation wins, then local names,
then module-level values, then declared fields. Calls are never tracked. `mostSpecific` picks the
most specific of several known types in one pass.
-/

namespace Componentry

def literalType (r : Registry) : Ir.Literal → Option HostType
  | .none => none
  | .bool _ => r.lookup Host.booleanName
  | .int _ => r.lookup Host.int32Name
  | .float _ => r.lookup Host.singleName
  | .str _ => r.lookup Host.stringName

def nameType (env : TypeEnv) (name : String) : Option HostType :=
  if env.isLocal name then env.localType name
  else if env.callables.contains name then none
  else (env.globals.get? name).join

def resolve (r : Registry) (env : TypeEnv) : Ir.Expr → Option HostType
  | .annotated _ typeName => r.lookup typeName
  | .const value => literalType r value
  | .typeRef _ _ => r.lookup Host.typeName
  | .var name => nameType env name
  | .attr obj field => (resolve r env obj).bind (r.fieldType · field)
  | _ => none

/-- One step of the pass: a known candidate takes over if it is a strict subtype. -/
def challenge (r : Registry) (champion candidate : Option HostType) : Option HostType :=
  match champion, candidate with
  | champion, none => champion
  | none, some c => some c
  | some t, some c => if r.isStrictSubtype c t then some c else some t

/-- The most specific of the known types, met from left to right. Of unrelated types the first
stays. -/
def mostSpecific (r : Registry) (types : List (Option HostType)) : Option HostType :=
  types.foldl (challenge r) none

end Componentry
