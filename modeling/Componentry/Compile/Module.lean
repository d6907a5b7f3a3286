import Componentry.Compile.Component
import Componentry.Ir.Names
import Componentry.Path
import Componentry.Source.Grammar.Statement

/-!
# Compiling modules

A source is compiled in two passes: the first collects the top-level declarations and registers the
types of all components, the second compiles values and bodies, which may refer to every
declaration. Helper functions that nothing calls are worth a warning.
-/

namespace Componentry

namespace Compile

open CompileM

structure GlobalSource where
  span : Source.Span
  name : String
  annot : Source.Expr
  value : Option Source.Expr

/-- A class of the source whose type is not registered yet. -/
structure ClassSource where
  span : Source.Span
  name : String
  bases : List Source.Expr
  keywords : List Source.Expr
  body : List Source.Stmt
  decorators : List Source.Expr

/-- The top-level declarations of a source, by kind and in order. -/
structure Declarations where
  globals : List GlobalSource := []
  functions : List FunctionSource := []
  classes : List ClassSource := []

inductive TopLevel where
  | ofGlobal (g : GlobalSource)
  | ofFunction (f : FunctionSource)
  | ofClass (c : ClassSource)

def TopLevel.name : TopLevel → String
  | ofGlobal g => g.name
  | ofFunction f => f.name
  | ofClass c => c.name

def Declarations.cons (d : Declarations) : TopLevel → Declarations
  | .ofGlobal g => { d with globals := g :: d.globals }
  | .ofFunction f => { d with functions := f :: d.functions }
  | .ofClass c => { d with classes := c :: d.classes }

def topLevel : Source.Stmt → CompileM TopLevel
  | .annAssign span (.name _ id _) annot value => pure (.ofGlobal ⟨span, id, annot, value⟩)
  | .annAssign span .. => refuseAt span .globalTarget
  | .functionDef span name params body decorators returns =>
    pure (.ofFunction ⟨span, name, params, body, decorators, returns⟩)
  | .classDef span name bases keywords body decorators =>
    pure (.ofClass ⟨span, name, bases, keywords, body, decorators⟩)
  | .assign span .. => refuseAt span .unannotatedGlobal
  | s => refuseAt s.span (.topLevelStatement s.kind)

/-- Collects the declarations of statements, given the names declared before. -/
def collect (met : List String) : List Source.Stmt → CompileM Declarations
  | [] => pure {}
  | s :: rest =>
    if s.isDocstring then collect met rest
    else do
      let d ← topLevel s
      checkName s.span d.name
      if met.contains d.name then refuseAt s.span (.duplicateName d.name)
      let ds ← collect (d.name :: met) rest
      return ds.cons d

def registerAll (r : Registry) : List ClassSource → CompileM (List ComponentSource × Registry)
  | [] => pure ([], r)
  | c :: rest => do
    let (c, r) ← register r c.span c.name c.bases c.keywords c.body c.decorators
    let (cs, r) ← registerAll r rest
    return (c :: cs, r)

def globalTypes (r : Registry) : List GlobalSource → CompileM (Table (Option HostType))
  | [] => pure .empty
  | g :: rest => do
    let type ← annotType r g.span (some g.annot)
    let types ← globalTypes r rest
    return ⟨(g.name, type) :: types.entries⟩

def global (r : Registry) (env : TypeEnv) (g : GlobalSource) : CompileM Ir.Global := do
  let value ← exprOption r env g.value
  return ⟨g.name, ((env.globals.get? g.name).join).map HostType.fullName, value⟩

/-- Warns about helper functions that no code of the module mentions. -/
def warnUnused (functions : List FunctionSource) (m : Ir.Module) : CompileM Unit := do
  let used := m.vars
  for f in functions do
    if !used.contains f.name then warn ⟨.unusedHelper f.name, some (.ofSpan f.span)⟩

def module (known : Messages) (policy : DuplicatePolicy) (moduleName : Option String)
    (stmts : List Source.Stmt) : CompileM Ir.Module := do
  let ds ← collect [] stmts
  let (components, r) ← registerAll Host.builtin ds.classes
  components.forM fun c => checkFieldTypes r c.body
  let env : TypeEnv :=
    { globals := ← globalTypes r ds.globals, callables := ds.functions.map FunctionSource.name }
  let globals ← ds.globals.mapM (global r env)
  let functions ← ds.functions.mapM (function r env)
  let components ← components.mapM (component r known policy moduleName env)
  let m : Ir.Module := { globals, functions, components, moduleName }
  warnUnused ds.functions m
  return m

/-- Compiles a source text. -/
def source (known : Messages) (policy : DuplicatePolicy) (moduleName : Option String)
    (text : String) : CompileM Ir.Module := do
  if Text.isBlankText text.toList then refuse none .emptySource
  match Source.parse text with
  | none => refuse none .invalidSyntax
  | some stmts => module known policy moduleName stmts

/-- The name of the module that components load: the given one, or else the stem of the path. -/
def moduleNameFor (sourcePath moduleName : Option String) : Option String :=
  moduleName <|> sourcePath.map Path.stem

end Compile

def compile (known : Messages) (policy : DuplicatePolicy) (sourcePath moduleName : Option String)
    (text : String) : Outcome Ir.Module :=
  (Compile.source known policy (Compile.moduleNameFor sourcePath moduleName) text).outcome

end Componentry
