import DataPipeline.Workflow.Node

/-!
# Workflows

A workflow is a list of nodes and a list of connections between them, both in the order in which
they were drawn. Nothing else is asked of it: ids may repeat and connections may lead nowhere, and
`Validation` says so.

## Main definitions

* `Connection`: an arrow from a node to a node
* `Workflow`, `Workflow.node`: workflows, and the first node with an id
* `Workflow.codec`: workflows as documents
-/
namespace DataPipeline

structure Connection where
  source : String
  target : String
deriving DecidableEq

namespace Connection

def layout : Layout Connection Connection :=
  Layout.make mk
    |>.field (.required "sourceId" .text (·.source))
    |>.field (.required "targetId" .text (·.target))

def codec : Codec Connection := .record "NodeConnection" layout

/-- Whether a node is one of the ends. -/
def touches (c : Connection) (id : String) : Bool := c.source = id || c.target = id

end Connection

structure Workflow where
  nodes : List Node := []
  connections : List Connection := []

namespace Workflow

/-- The first node with the id. -/
def node (w : Workflow) (id : String) : Option Node := w.nodes.find? (·.id = id)

/-- The ids of the nodes, repetitions included. -/
def ids (w : Workflow) : List String := w.nodes.map (·.id)

def layout : Layout Workflow Workflow :=
  Layout.make mk
    |>.field (.orElse "nodes" Node.codec.list [] (·.nodes))
    |>.field (.orElse "connections" Connection.codec.list [] (·.connections))

def codec : Codec Workflow := .record "GraphSnapshot" layout

/-- The text of a workflow on one line. -/
def toText (w : Workflow) : String := (codec.toJson w).compress

end Workflow

end DataPipeline
