import Componentry.Command.Run

/-!
# The program

Reads the source that the command line names, writes the files of the report and prints its lines.
-/

namespace Componentry.Command

def usage : String :=
  "usage: components [-h] [--output OUTPUT] [--host-module HOST_MODULE] "
    ++ "[--module-name MODULE_NAME]\n                  "
    ++ "[--duplicates keep_last|keep_first|error] [--inference-log] source"

def look (path : String) : IO Found := do
  try
    return .file (← IO.FS.readFile path)
  catch e =>
    match e with
    | .noFileOrDirectory .. => return .missing
    | _ => return .notAFile

def perform (output : Option String) (r : Report) : IO Unit := do
  for w in r.warnings do
    IO.eprintln ("warning: " ++ w.text (some r.sourceText))
  if r.exitCode = 0 then
    for directory in output do
      IO.FS.createDirAll directory
    for (path, text) in r.writes do
      IO.FS.writeFile (Path.ofParts path) text
  for line in r.err do
    IO.eprintln line
  for line in r.out do
    IO.println line

def explain (f : Failure) : IO UInt32 := do
  match f with
  | .stopped .help => IO.println usage
  | .stopped .usage => IO.eprintln usage
  | f => IO.eprintln f.message
  return f.exitCode.toUInt32

def runMain (argv : List String) : IO UInt32 := do
  match parse argv with
  | .error stop => explain (.stopped stop)
  | .ok args =>
    let directory := Path.parts (← IO.currentDir).toString
    let found ← look (Path.ofParts (resolvePath directory args.source))
    match execute args directory found with
    | .error f => explain f
    | .ok report =>
      perform (args.output.map fun o => Path.ofParts (resolvePath directory o)) report
      return report.exitCode.toUInt32

end Componentry.Command

def main (argv : List String) : IO UInt32 := Componentry.Command.runMain argv
