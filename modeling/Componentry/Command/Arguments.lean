import Componentry.Diagnostic.Basic
import Componentry.Text.Digit

/-!
# Command-line arguments

A command line names one source file and may set options, before or after it. A long option may be
cut to any beginning that no other option shares, its value may follow in the next argument or after
an equals sign, and of repeated options the last counts. After two dashes every argument is plain.
Two dashes are never a value: an option that is given them has none.
-/

namespace Componentry.Command

inductive Switch where
  | help | output | hostModule | moduleName | duplicates | inferenceLog
deriving DecidableEq, Repr

def Switch.table : List (String × Switch) :=
  [("-h", .help), ("--help", .help), ("--output", .output), ("--host-module", .hostModule),
    ("--module-name", .moduleName), ("--duplicates", .duplicates),
    ("--inference-log", .inferenceLog)]

def Switch.takesValue : Switch → Bool
  | help => false
  | inferenceLog => false
  | _ => true

/-- What the options are set to. An option that was given two dashes is set to nothing. -/
structure Settings where
  output : Option String := some "build"
  hostModule : Option String := some "UnityEngine"
  /-- A name that is not given at all is taken from the source. -/
  moduleName : Option (Option String) := none
  policy : Option DuplicatePolicy := some .keepLast
  showLog : Bool := false
deriving DecidableEq, Repr

structure Arguments extends Settings where
  source : String
deriving DecidableEq, Repr

/-- Why a command line asks for nothing: it wants help, or it is not understood. -/
inductive Stop where
  | help
  | usage
deriving DecidableEq, Repr

/-- The status with which the program then ends. -/
def Stop.exitCode : Stop → Nat
  | help => 0
  | usage => 2

def policyWord? : String → Option DuplicatePolicy
  | "keep_last" => some .keepLast
  | "keep_first" => some .keepFirst
  | "error" => some .refuse
  | _ => none

/-- The wording for what is no policy, which is shown as it is written. -/
def invalidPolicy (shown : String) : String := shown ++ " is not a valid DuplicatePolicy"

/-! ## Kinds of argument -/

/-- An argument by itself. -/
inductive Token where
  | plain (text : String)
  | separator
  /-- An option with the value that is written together with it; `long` options start with two
  dashes. -/
  | option (switch : Switch) (value : Option String) (long : Bool)
  | unknown
deriving DecidableEq, Repr

def splitEquals (cs : List Char) : List Char × Option String :=
  match cs.dropWhile (· != '=') with
  | [] => (cs, none)
  | _ :: value => (cs.takeWhile (· != '='), some (String.ofList value))

/-- The options that a beginning may stand for. -/
def completions (start : List Char) : List Switch :=
  (Switch.table.filter fun entry => start.isPrefixOf entry.1.toList).map Prod.snd

/-- A text without the line end behind it. -/
def dropLineEnd (cs : List Char) : List Char := if cs.getLast? = some '\n' then cs.dropLast else cs

/-- Whether an argument is a negative number, which is no option. Its digits may be those of any
script, and a line may end behind it. -/
def isNegativeNumber (cs : List Char) : Bool :=
  match dropLineEnd cs with
  | '-' :: rest =>
    let whole := rest.takeWhile Text.isDecimalDigit
    match rest.drop whole.length with
    | [] => !whole.isEmpty
    | '.' :: fraction => !fraction.isEmpty && fraction.all Text.isDecimalDigit
    | _ => false
  | _ => false

/-- An argument that starts like an option and is none of its full spellings. -/
def tokenOfStart (arg : String) : Except Stop Token :=
  let cs := arg.toList
  let other : Token :=
    if isNegativeNumber cs || cs.contains ' ' then .plain arg else .unknown
  match cs with
  | '-' :: '-' :: _ =>
    let (start, value) := splitEquals cs
    match completions start with
    | [] => .ok other
    | [switch] => .ok (.option switch value true)
    | _ => .error .usage
  | '-' :: 'h' :: rest => .ok (.option .help (some (String.ofList rest)) false)
  | _ => .ok other

def token (arg : String) : Except Stop Token :=
  let cs := arg.toList
  let exact (cs : List Char) : Option Switch :=
    (Switch.table.find? fun entry => entry.1.toList == cs).map Prod.snd
  if cs.head? ≠ some '-' || cs.length = 1 then .ok (.plain arg)
  else
    match exact cs, splitEquals cs with
    | some switch, _ => .ok (.option switch none (cs.take 2 == ['-', '-']))
    | none, (name, some value) =>
      match exact name with
      | some switch => .ok (.option switch (some value) (name.take 2 == ['-', '-']))
      | none => tokenOfStart arg
    | none, (_, none) => tokenOfStart arg

def tokens : List String → Except Stop (List Token)
  | [] => .ok []
  | "--" :: rest => .ok (.separator :: rest.map .plain)
  | arg :: rest => do
    let first ← token arg
    let rest ← tokens rest
    .ok (first :: rest)

/-! ## Reading -/

/-- What has been read so far. -/
structure Progress extends Settings where
  source : Option String := none
  /-- Whether there was something that nothing asks for. -/
  extra : Bool := false

def Progress.set (p : Progress) (switch : Switch) (value : String) : Except Stop Progress :=
  let value? := if value = "--" then none else some value
  match switch with
  | .output => .ok { p with output := value? }
  | .hostModule => .ok { p with hostModule := value? }
  | .moduleName => .ok { p with moduleName := some value? }
  | .duplicates =>
    match value?, policyWord? value with
    | none, _ => .ok { p with policy := none }
    | some _, some policy => .ok { p with policy := some policy }
    | some _, none => .error .usage
  | .help => .error .help
  | .inferenceLog => .ok { p with showLog := true }

/-- Sets an option without a value. Only the short option for help may be repeated in one
argument. -/
def Progress.setBare (p : Progress) (switch : Switch) (value : Option String) (long : Bool) :
    Except Stop Progress :=
  match value with
  | none => p.set switch ""
  | some tail =>
    if !long && tail ≠ "" && tail.toList.all (· == 'h') then .error .help else .error .usage

/-- Reads arguments from left to right. The first plain one is the source, with a separator beside
it. -/
def consume (p : Progress) : List Token → Except Stop Progress
  | [] => .ok p
  | .unknown :: rest => consume { p with extra := true } rest
  | .option switch value long :: rest =>
    if !switch.takesValue then
      match p.setBare switch value long with
      | .ok p => consume p rest
      | .error stop => .error stop
    else
      match value, rest with
      | some v, rest =>
        match p.set switch v with
        | .ok p => consume p rest
        | .error stop => .error stop
      | none, .plain v :: rest =>
        match p.set switch v with
        | .ok p => consume p rest
        | .error stop => .error stop
      | none, _ => .error .usage
  | .plain text :: rest =>
    if p.source.isSome then consume { p with extra := true } rest
    else
      match rest with
      | .separator :: rest => consume { p with source := some text } rest
      | rest => consume { p with source := some text } rest
  | .separator :: rest =>
    match p.source, rest with
    | none, .plain text :: rest => consume { p with source := some text } rest
    | _, rest => consume { p with extra := true } rest

def parse (argv : List String) : Except Stop Arguments := do
  let p ← consume {} (← tokens argv)
  match p.source, p.extra with
  | some source, false => .ok { p.toSettings with source }
  | _, _ => .error .usage

end Componentry.Command
