import DataPipeline.Editor.Session

/-!
# The command line

Validates and compiles workflows in files. Documents go to the standard output, diagnostics to the
standard error, one on a line.

## Main definitions

* `Command`, `Command.ofArguments`
* `FileFault`, `Outcome`: what can be wrong with a file; what a command leaves behind
* `Command.run`: the outcome of a command, given what the files hold
-/
namespace DataPipeline

inductive Command where
  | validate (path : String)
  | compile (path : String) (options : Option String)
  | chains (path : String)
  | inputs (path node : String)
deriving DecidableEq

/-- Why a file cannot be read. -/
inductive FileFault where
  | absent
  | directory
  | insideFile
  | nameTooLong
  | forbidden
  | notText
  | other (reason : String)
deriving DecidableEq

def FileFault.message : FileFault → String
  | absent => "No such file or directory (os error 2)"
  | directory => "Is a directory (os error 21)"
  | insideFile => "Not a directory (os error 20)"
  | nameTooLong => "File name too long (os error 36)"
  | forbidden => "Permission denied (os error 13)"
  | notText => "stream did not contain valid UTF-8"
  | other reason => reason

/-- What a command writes, and the code with which it ends. -/
structure Outcome where
  exitCode : Nat
  stdout : String
  stderr : String
deriving DecidableEq

namespace Command

/-! ## Arguments -/

/-- Whether an argument is an option rather than a path; a lone hyphen is a path. -/
def isOption (arg : String) : Bool := "-".toList.isPrefixOf arg.toList && 1 < arg.length

/-- Splits the arguments of a command into paths and the option files that are named; behind `--`
there are only paths. -/
def splitArguments : List String → Option (List String × List String)
  | [] => some ([], [])
  | "--" :: rest => some (rest, [])
  | "-o" :: path :: rest | "--options" :: path :: rest =>
    if isOption path then none
    else (splitArguments rest).map fun (paths, options) => (paths, path :: options)
  | arg :: rest =>
    let chars := arg.toList
    let add (path : List Char) :=
      (splitArguments rest).map fun (paths, options) => (paths, String.ofList path :: options)
    if "--options=".toList.isPrefixOf chars then add (chars.drop 10)
    else if "-o=".toList.isPrefixOf chars then add (chars.drop 3)
    else if "-o".toList.isPrefixOf chars && 2 < chars.length then add (chars.drop 2)
    else if isOption arg then none
    else (splitArguments rest).map fun (paths, options) => (arg :: paths, options)

def ofArguments : List String → Option Command
  | [] => none
  | name :: rest => do
    match name, ← splitArguments rest with
    | "validate", ([path], []) => some (validate path)
    | "sequences", ([path], []) => some (chains path)
    | "inputs", ([path, node], []) => some (inputs path node)
    | "compile", ([path], []) => some (compile path none)
    | "compile", ([path], [options]) => some (compile path (some options))
    | _, _ => none

/-- The files that a command reads, in order. -/
def paths : Command → List String
  | validate path | chains path | inputs path _ => [path]
  | compile path options => path :: options.toList

/-! ## Outcomes -/

/-- What ends a command early. -/
inductive Failure where
  | unreadable (path : String) (fault : FileFault)
  | diagnostics (ds : List Diagnostic)

/-- An unreadable file is reported behind an empty line. -/
def Failure.outcome : Failure → Outcome
  | unreadable path fault =>
    ⟨1, "", "\nError: Failed to read '" ++ path ++ "': " ++ fault.message ++ "\n"⟩
  | diagnostics ds => ⟨1, "", String.join (ds.map (·.line ++ "\n"))⟩

/-- A document on the standard output. -/
def printed (exitCode : Nat) (j : Json) : Outcome := ⟨exitCode, j.render ++ "\n", ""⟩

variable (files : String → Except FileFault String)

def read (path : String) : Except Failure String := (files path).mapError (.unreadable path)

def readWorkflow (path : String) : Except Failure Workflow := do
  (Editor.workflow (← read files path)).mapError .diagnostics

/-- Options in a file; without a file the defaults. -/
def readOptions (path : Option String) : Except Failure PlanOptions :=
  match path with
  | none => .ok {}
  | some path => do
    (PlanOptions.load (← read files path)).mapError fun e => .diagnostics [e.diagnostic]

def execute : Command → Except Failure Outcome
  | validate path => do
    let report := (← readWorkflow files path).validate
    return printed (if report.isValid then 0 else 1) report.toJson
  | compile path optionsPath => do
    let w ← readWorkflow files path
    let options ← readOptions files optionsPath
    let p ← (w.compile options).mapError fun es => .diagnostics (es.map CompileError.diagnostic)
    return printed 0 p.toJson
  | chains path => do
    let w ← readWorkflow files path
    return printed 0 (.arr (w.chains.map Chain.codec.toJson))
  | inputs path node => do
    let w ← readWorkflow files path
    return printed 0 (.arr ((w.offersTo node).map OfferedField.codec.toJson))

/-- The outcome of a command. The content of a file, or why it cannot be read, is found under its
path. -/
def run (c : Command) : Outcome :=
  match c.execute files with
  | .ok outcome => outcome
  | .error failure => failure.outcome

end Command

end DataPipeline
