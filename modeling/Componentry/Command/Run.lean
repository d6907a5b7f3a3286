import Componentry.Command.Arguments
import Componentry.Command.Files
import Componentry.Export

/-!
# The command

The command compiles one source file and writes the exported files into a directory. `execute`
decides everything from the arguments and what was found at the source's path; `run` applies it to a
whole file tree.
-/

namespace Componentry.Command

/-- What stands at the path of the source. -/
inductive Found where
  | missing
  | notAFile
  | file (text : String)
deriving DecidableEq, Repr

/-- What the command does: its status, what it prints, the files it writes in order, and the
warnings with the text they quote from. -/
structure Report where
  exitCode : Nat
  out : List String := []
  err : List String := []
  writes : List (List String × String) := []
  warnings : List Warning := []
  sourceText : String := ""

/-- Why the command ends without a report. -/
inductive Failure where
  | stopped (stop : Stop)
  | noOutput
  | noPolicy
  | unwritten (fault : Emit.Fault)
deriving DecidableEq, Repr

namespace Failure

/-- The status with which the program then ends. -/
def exitCode : Failure → Nat
  | stopped stop => stop.exitCode
  | _ => 1

/-- The wording of a failure; usage and help are worded elsewhere. -/
def message : Failure → String
  | stopped _ => ""
  | noOutput => "expected str, bytes or os.PathLike object, not list"
  | noPolicy => invalidPolicy "[]"
  | unwritten fault => fault.message

end Failure

/-- The lines that list recorded types, counted from one. -/
def logLines (n : Nat) : List (Option String) → List String
  | [] => []
  | entry :: rest =>
    let type := match Emit.nonEmpty entry with
      | some name => name
      | none => "unknown"
    ("dispatch " ++ toString n ++ ": " ++ type) :: logLines (n + 1) rest

/-- The name by which the summary calls a module: an empty list if it was given two dashes for one.
-/
def shownName (args : Arguments) (m : Ir.Module) : Json :=
  match args.moduleName with
  | some none => .arr []
  | _ => .ofOption m.moduleName

def success (args : Arguments) (sourcePath output : List String) (m : Ir.Module)
    (log : List (Option String)) : Except Emit.Fault Report := do
  let path := Path.ofParts sourcePath
  let files ← Export.filesAs (shownName args m) (some path) args.hostModule m
  let listed := [Export.moduleFile (some path), Export.summaryFile, Export.codeFile]
  return {
    exitCode := 0
    out :=
      ("Generated " ++ toString m.components.length ++ " component(s) into " ++ Path.ofParts output)
        :: listed.map (fun name => "- " ++ Path.ofParts (output ++ [name]))
        ++ if args.showLog then logLines 1 log else []
    writes := files.map fun f => (output ++ [f.1], f.2) }

def refusal (message : String) : Report := { exitCode := 1, err := ["error: " ++ message] }

def build (args : Arguments) (policy : DuplicatePolicy) (sourcePath output : List String)
    (text : String) : Except Failure Report := do
  let text := String.ofList (Text.uniformEnds text.toList)
  let name := args.moduleName.map (·.getD "")
  let outcome := compile Messages.standard policy (some (Path.ofParts sourcePath)) name text
  let report ← match outcome.result with
    | .error d => .ok (refusal (d.text (some text)))
    | .ok m => (success args sourcePath output m outcome.log).mapError .unwritten
  return { report with warnings := outcome.warnings, sourceText := text }

/-- Does what the arguments ask for in a directory. -/
def execute (args : Arguments) (directory : List String) (found : Found) : Except Failure Report :=
  let sourcePath := resolvePath directory args.source
  match args.output, found, args.policy with
  | none, _, _ => .error .noOutput
  | some _, .missing, _ =>
    .ok (refusal ("Component source file not found: " ++ Path.ofParts sourcePath))
  | some _, .notAFile, _ =>
    .ok (refusal ("Component source path is not a file: " ++ Path.ofParts sourcePath))
  | some _, .file _, none => .error .noPolicy
  | some output, .file text, some policy =>
    build args policy sourcePath (resolvePath directory output) text

def find (tree : FileTree) (path : List String) : Found :=
  match tree.text? path with
  | some text => .file text
  | none => if tree.isDirectory path then .notAFile else .missing

/-- Runs a command line in a directory of a file tree. -/
def run (argv : List String) (directory : List String) (tree : FileTree) :
    Except Failure Report := do
  let args ← (parse argv).mapError .stopped
  execute args directory (find tree (resolvePath directory args.source))

def Report.apply (r : Report) (tree : FileTree) : FileTree :=
  r.writes.foldl (fun t w => t.write w.1 w.2) tree

end Componentry.Command
