import DataPipeline.Task.Options
import DataPipeline.Workflow.Basic

/-!
# DAGs

The order of execution: an entry for every node with the ids of the nodes that come next. Entries
stand in the order of the nodes; no other order is imposed on them.

## Main definitions

* `Dag`, `Dag.Entry`
* `Workflow.next`: the ids behind the connections out of an id, each once
* `Workflow.dag`: the DAG of a workflow
-/
namespace DataPipeline

structure Dag.Entry where
  id : String
  kind : Kind
  configId : Option String
  next : List String
deriving DecidableEq

namespace Dag.Entry

def layout : Layout Dag.Entry Dag.Entry :=
  Layout.make mk
    |>.field (.required "id" .text (·.id))
    |>.field (.required "type" Kind.codec (·.kind))
    |>.field (.nullable "config_id" .text (·.configId))
    |>.field (.required "next" Codec.text.list (·.next))

def codec : Codec Dag.Entry := .record "DagEntry" layout

end Dag.Entry

structure Dag where
  dagId : String
  name : String
  schedule : Option String
  active : Bool
  entries : List Dag.Entry
deriving DecidableEq

namespace Dag

def layout : Layout Dag Dag :=
  Layout.make mk
    |>.field (.required "dag_id" .text (·.dagId))
    |>.field (.required "name" .text (·.name))
    |>.field (.optional "schedule" .text (·.schedule))
    |>.field (.required "active" .boolean (·.active))
    |>.field (.required "dag_sequence" Entry.codec.list (·.entries))

def codec : Codec Dag := .record "Dag" layout

/-- The entry of a node. -/
def entry (d : Dag) (id : String) : Option Entry := d.entries.find? (·.id = id)

end Dag

/-- The items of a list whose key does not occur before them. -/
def firstOfEach {α β : Type} [DecidableEq β] (key : α → β) (seen : List β) : List α → List α
  | [] => []
  | a :: as =>
    if key a ∈ seen then firstOfEach key seen as
    else a :: firstOfEach key (key a :: seen) as

namespace Workflow

/-- The ids behind the connections out of `id`, in the order of the connections. An id without a
node is left out, and an id that occurs again is not repeated. -/
def next (w : Workflow) (id : String) : List String :=
  firstOfEach (·) [] <|
    (w.connections.filter fun c => c.source = id && w.ids.contains c.target).map (·.target)

/-- One entry for each id, made from the first node that has it. -/
def dagEntries (w : Workflow) : List Dag.Entry :=
  (firstOfEach (·.id) [] w.nodes).map fun n => ⟨n.id, n.kind, n.configId, w.next n.id⟩

def dag (w : Workflow) (options : PlanOptions) : Dag :=
  ⟨options.dagId, options.name, options.schedule, options.active, w.dagEntries⟩

end Workflow

end DataPipeline
