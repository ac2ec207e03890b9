import DataPipeline.Task.Conversion
import DataPipeline.Task.FileCommand
import DataPipeline.Task.Timer

/-!
# Tasks

What the engine is told to do. A task is written as the bare record; its kind travels beside it,
together with the node that the task belongs to and the id under which it is stored.

## Main definitions

* `Task`, `TaskKind`
* `Assignment`: a task with its node; `TaskKey`: how a stored task is addressed
* `Node.task`: the task of a node that has one of its own
-/
namespace DataPipeline

inductive TaskKind where
  | conversion
  | fileCommand
  | salesforceQuery
  | salesforceLoad
  | timer
deriving DecidableEq

namespace TaskKind

def all : List TaskKind := [conversion, fileCommand, salesforceQuery, salesforceLoad, timer]

def name : TaskKind → String
  | conversion => "file_conversion"
  | fileCommand => "cli_operator"
  | salesforceQuery => "salesforce_read"
  | salesforceLoad => "salesforce_write"
  | timer => "scheduler_timer"

def codec : Codec TaskKind := .choice (all.map fun k => (k.name, k)) name

end TaskKind

inductive Task where
  | conversion (t : Conversion)
  | fileCommand (t : FileCommand)
  | salesforceQuery (t : SalesforceQuery)
  | salesforceLoad (t : SalesforceLoad)
  | timer (t : Timer)

namespace Task

def kind : Task → TaskKind
  | conversion _ => .conversion
  | fileCommand _ => .fileCommand
  | salesforceQuery _ => .salesforceQuery
  | salesforceLoad _ => .salesforceLoad
  | timer _ => .timer

def toJson : Task → Json
  | conversion t => Conversion.codec.toJson t
  | fileCommand t => FileCommand.codec.toJson t
  | salesforceQuery t => SalesforceQuery.codec.toJson t
  | salesforceLoad t => SalesforceLoad.codec.toJson t
  | timer t => Timer.codec.toJson t

/-- The task of a kind that a document stands for. -/
def ofJson (k : TaskKind) (j : Json) : Except Json.ShapeError Task :=
  match k with
  | .conversion => conversion <$> Conversion.codec.ofJson j
  | .fileCommand => fileCommand <$> FileCommand.codec.ofJson j
  | .salesforceQuery => salesforceQuery <$> SalesforceQuery.codec.ofJson j
  | .salesforceLoad => salesforceLoad <$> SalesforceLoad.codec.ofJson j
  | .timer => timer <$> Timer.codec.ofJson j

end Task

/-! ## Tasks of nodes -/

/-- How a stored task is addressed; one that is not stored yet has no id. -/
structure TaskKey where
  clientId : String
  kind : TaskKind
  configId : Option String
deriving DecidableEq

namespace TaskKey

def layout : Layout TaskKey TaskKey :=
  Layout.make mk
    |>.field (.required "client_id" .text (·.clientId))
    |>.field (.required "config_kind" TaskKind.codec (·.kind))
    |>.field (.nullable "config_id" .text (·.configId))

def codec : Codec TaskKey := .record "ConfigKey" layout

end TaskKey

/-- A task with the node that it belongs to. -/
structure Assignment where
  nodeId : String
  configId : Option String
  task : Task

namespace Assignment

def ofNode (n : Node) (task : Task) : Assignment := ⟨n.id, n.configId, task⟩

def key (a : Assignment) (clientId : String) : TaskKey := ⟨clientId, a.task.kind, a.configId⟩

def toJson (a : Assignment) : Json :=
  .obj [("node_id", .str a.nodeId), ("config_id", Codec.text.optional.toJson a.configId),
    ("config_kind", .str a.task.kind.name), ("config", a.task.toJson)]

end Assignment

/-- The task of a node that has one of its own: a file command, a Salesforce task or a timer.
Sources, sinks and filters only take part in a conversion. -/
def Node.task (n : Node) (options : PlanOptions) (dagId : String) :
    Except MapError (Option Task) := do
  if let some t ← n.fileCommand options.executedBy then return some (.fileCommand t)
  if let some t ← n.salesforceQuery then return some (.salesforceQuery t)
  if let some t ← n.salesforceLoad then return some (.salesforceLoad t)
  if let some t ← n.timer dagId then return some (.timer t)
  return none

end DataPipeline
