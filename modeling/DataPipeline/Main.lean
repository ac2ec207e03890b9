import DataPipeline.CommandLine

/-!
# The program

Reads the files that a command names and writes its outcome.
-/
namespace DataPipeline.Command

def faultOf : IO.Error → FileFault
  | .noFileOrDirectory .. => .absent
  | .inappropriateType none .. => .directory
  | .inappropriateType (some _) .. => .insideFile
  | .permissionDenied .. => .forbidden
  | .userError _ => .notText
  | e => .other (toString e)

/-- The content of a file, or why it cannot be read. -/
def readPath (path : String) : IO (Except FileFault String) := do
  try
    return .ok (← IO.FS.readFile path)
  catch e =>
    return .error (faultOf e)

end DataPipeline.Command

open DataPipeline

def main (args : List String) : IO UInt32 := do
  match Command.ofArguments args with
  | none =>
    IO.eprintln
      "Usage: (validate | compile [-o OPTIONS] | sequences) SNAPSHOT, inputs SNAPSHOT NODE"
    return 2
  | some command =>
    let contents ← command.paths.mapM fun path => do return (path, ← Command.readPath path)
    let files (path : String) := (contents.lookup path).getD (.error .absent)
    let outcome := command.run files
    IO.print outcome.stdout
    IO.eprint outcome.stderr
    return outcome.exitCode.toUInt32
