import DataPipeline.Workflow.Basic

/-!
# Filling in paths

When a connection is made, a node that works on a file takes over the path of the file that the
node in front of it leaves behind. The first path wins: a path that is there stays, and one that
the user has edited is never touched, even when it is blank.

## Main definitions

* `Kind.inheritedField`: the field that a kind takes over
* `Node.inheritPath`: the node after a connection, if it takes over a path
-/
namespace DataPipeline

/-- The field that is filled in from the node in front. -/
def Kind.inheritedField : Kind → Option String
  | .salesforceWrite => some "file_path"
  | .copyFile | .renameFile | .deleteFile | .code => some "source_path"
  | _ => none

namespace Settings

/-- The value of the field that is filled in. -/
def inheritedValue : Settings → Option String
  | salesforceWrite s => s.filePath
  | copyFile s | renameFile s | deleteFile s | code s => s.sourcePath
  | _ => none

/-- Sets the field that is filled in. -/
def fill (path : String) : Settings → Settings
  | salesforceWrite s => salesforceWrite { s with filePath := some path }
  | copyFile s => copyFile { s with sourcePath := some path }
  | renameFile s => renameFile { s with sourcePath := some path }
  | deleteFile s => deleteFile { s with sourcePath := some path }
  | code s => code { s with sourcePath := some path }
  | s => s

end Settings

namespace Node

/-- The field that `target` takes over from `source` and its value, if there is one to fill. -/
def inheritance (source target : Node) : Option (String × String) := do
  let field ← target.kind.inheritedField
  let path ← source.settings.producedPath
  guard (!target.editedFields.contains field && Text.isMissing target.settings.inheritedValue)
  return (field, path)

/-- The node `target` once `source` is connected to it. -/
def inheritPath (source target : Node) : Node :=
  match source.inheritance target with
  | some (_, path) => { target with settings := target.settings.fill path }
  | none => target

end Node

end DataPipeline
