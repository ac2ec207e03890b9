import DataPipeline.Task.Storage
import DataPipeline.Workflow.Node

/-!
# File commands

The task of a node that copies, moves, renames or deletes a file. The kind of the node says which,
except for a code node, whose settings say it.

## Main definitions

* `FileOperation`, `FileOperation.ofText`
* `FileCommand`, `FileCommand.codec`
* `Node.fileCommand`: the command of a node, given who runs commands by default
-/
namespace DataPipeline

inductive FileOperation where
  | copy
  | move
  | rename
  | delete
deriving DecidableEq

namespace FileOperation

def all : List FileOperation := [copy, move, rename, delete]

def name : FileOperation → String
  | copy => "copy"
  | move => "move"
  | rename => "rename"
  | delete => "delete"

def codec : Codec FileOperation := .choice (all.map fun o => (o.name, o)) name

/-- The operation with a name, up to case and surrounding white space. -/
def ofText (s : String) : Option FileOperation :=
  all.find? (·.name = Text.lower (Text.trim s))

def hasDestination (o : FileOperation) : Bool := o ≠ delete

end FileOperation

structure FileCommand where
  operation : FileOperation
  sourcePath : String
  destinationPath : Option String
  options : Dict Json
  executedBy : String

namespace FileCommand

def layout : Layout FileCommand FileCommand :=
  Layout.make mk
    |>.field (.required "operation" FileOperation.codec (·.operation))
    |>.field (.required "source_path" .text (·.sourcePath))
    |>.field (.optional "destination_path" .text (·.destinationPath))
    |>.field (.required "options" .dict (·.options))
    |>.field (.required "executed_by" .text (·.executedBy))

def codec : Codec FileCommand := .record "CliOperatorConfig" layout

end FileCommand

namespace FileOperationSettings

/-- The operation that a code node names. -/
def namedOperation (nodeId : String) (s : FileOperationSettings) :
    Except MapError FileOperation := do
  let name ← required nodeId "operation" s.operation
  match FileOperation.ofText name with
  | some o => return o
  | none => .error (.invalidValue nodeId "operation" name "expected copy, move, rename or delete")

/-- The command for an operation. -/
def command (nodeId runner : String) (operation : FileOperation) (s : FileOperationSettings) :
    Except MapError FileCommand := do
  let sourcePath ← required nodeId "source_path" s.sourcePath
  let destinationPath ←
    if operation.hasDestination then
      some <$> required nodeId "destination_path" s.destinationPath
    else .ok none
  return {
    operation := operation
    sourcePath := sourcePath
    destinationPath := destinationPath
    options := s.options
    executedBy := (Text.content s.executedBy).getD runner }

end FileOperationSettings

/-- The command of a node that works on files. -/
def Node.fileCommand (n : Node) (runner : String) : Except MapError (Option FileCommand) :=
  match n.settings with
  | .copyFile s => some <$> s.command n.id runner .copy
  | .renameFile s => some <$> s.command n.id runner .rename
  | .deleteFile s => some <$> s.command n.id runner .delete
  | .code s => do
    let operation ← s.namedOperation n.id
    some <$> s.command n.id runner operation
  | _ => .ok none

end DataPipeline
