import Componentry.Compile.Module
import Componentry.Emit.Module
import Componentry.Ir.Exchange

/-!
# Exported files

A compiled module is exported as three files: the generated code, a summary of its components, and
the compiled code itself as tagged trees. The two JSON files have sorted keys.
-/

namespace Componentry.Export

def fieldSummary (f : Ir.Field) : Json :=
  .obj [("name", .str f.name), ("type", .ofOption f.typeName), ("mutable", .bool f.mutable),
    ("hidden", .bool f.hidden), ("native", .bool f.native)]

def componentSummary (c : Ir.Component) : Json :=
  .obj [("name", .str c.name), ("base", .str c.base), ("constant", .bool c.constant),
    ("fields", .arr (c.fields.map fieldSummary)),
    ("interfaces", .obj (c.implementations.map fun i =>
      (i.interface, .ofTexts (i.methods.map Ir.Method.name))))]

/-- The summary of a module: its components with their fields and interfaces. The module goes by the
given name. -/
def summaryAs (name : Json) (m : Ir.Module) : Json :=
  .obj [("module_name", name),
    ("globals", .arr (m.globals.map fun g =>
      .obj [("name", .str g.name), ("type", .ofOption g.typeName)])),
    ("functions", .ofTexts (m.functions.map Ir.Function.name)),
    ("components", .arr (m.components.map componentSummary))]

def summary (m : Ir.Module) : Json := summaryAs (.ofOption m.moduleName) m

def code (m : Ir.Module) : Json :=
  .obj [("globals", .arr (m.globals.map fun g => g.toTree.toJson)),
    ("functions", .arr (m.functions.map fun f => f.toTree.toJson)),
    ("components", .arr (m.components.map fun c => c.toTree.toJson))]

def summaryFile : String := "components.json"

def codeFile : String := "components_ir.json"

def moduleFile (sourcePath : Option String) : String :=
  (match Emit.nonEmpty sourcePath with
    | some path => Path.stem path
    | none => "components") ++ ".py"

/-- The files of a module in the order in which they are written. The summary calls the module by
the given name. -/
def filesAs (name : Json) (sourcePath hostModule : Option String) (m : Ir.Module) :
    Except Emit.Fault (List (String × String)) := do
  let text ← Emit.write m hostModule ((Emit.nonEmpty sourcePath).map Path.name)
  return [ (summaryFile, (summaryAs name m).indented),
    (codeFile, (code m).indented),
    (moduleFile sourcePath, text) ]

def files (sourcePath hostModule : Option String) (m : Ir.Module) :
    Except Emit.Fault (List (String × String)) :=
  filesAs (.ofOption m.moduleName) sourcePath hostModule m

end Componentry.Export
