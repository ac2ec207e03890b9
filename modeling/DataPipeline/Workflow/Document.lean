import DataPipeline.Diagnostic
import DataPipeline.Workflow.Basic

/-!
# Workflow documents

Reading the document of a workflow in two steps: first the outer shape, with the settings of every
node untyped, then the nodes. A document without the outer shape has one fault; otherwise every
node that cannot be read has a fault of its own.

## Main definitions

* `WorkflowEnvelope`: a workflow with its nodes in their envelopes
* `LoadError`: why a document is refused, and `LoadError.diagnostic`
* `Workflow.ofEnvelope`, `Workflow.load`: the nodes read from their envelopes; a text read
-/
namespace DataPipeline

open Json (ReadError ShapeError)

structure WorkflowEnvelope where
  nodes : List NodeEnvelope
  connections : List Connection

namespace WorkflowEnvelope

def layout : Layout WorkflowEnvelope WorkflowEnvelope :=
  Layout.make mk
    |>.field (.orElse "nodes" NodeEnvelope.codec.list [] (·.nodes))
    |>.field (.orElse "connections" Connection.codec.list [] (·.connections))

def codec : Codec WorkflowEnvelope := .record "RawSnapshot" layout

end WorkflowEnvelope

/-- Why a text is not read as something. -/
inductive LoadError where
  | workflow (cause : ReadError)
  | node (id : String) (cause : ShapeError)
  | nodeText (cause : ReadError)
  | patchText (cause : ReadError)
  | options (cause : ReadError)
deriving DecidableEq

namespace LoadError

def code : LoadError → String
  | workflow _ | patchText _ => "P001"
  | node _ _ | nodeText _ => "P002"
  | options _ => "P003"

def message : LoadError → String
  | workflow e => "Failed to parse workflow JSON: " ++ e.message
  | node _ e => e.message
  | nodeText e => "Failed to parse node JSON: " ++ e.message
  | patchText e => "Failed to parse patch JSON: " ++ e.message
  | options e => "Failed to parse compile options: " ++ e.message

def nodeId : LoadError → Option String
  | node id _ => some id
  | _ => none

def diagnostic (e : LoadError) : Diagnostic := ⟨e.code, .parse, e.message, e.nodeId⟩

end LoadError

namespace Workflow

/-- Reads the nodes of a workflow; each one that cannot be read is a fault. -/
def ofEnvelope (e : WorkflowEnvelope) : Except (List LoadError) Workflow :=
  let read (n : NodeEnvelope) := (Node.ofEnvelope n).mapError (LoadError.node n.id)
  let results := e.nodes.map read
  let faults := results.filterMap fun
    | .error f => some f
    | .ok _ => none
  if faults.isEmpty then .ok ⟨results.filterMap Except.toOption, e.connections⟩ else .error faults

/-- The workflow that a document stands for. -/
def ofJson (j : Json) : Except (List LoadError) Workflow :=
  match WorkflowEnvelope.codec.ofJson j with
  | .error e => .error [.workflow (.shape e)]
  | .ok e => ofEnvelope e

/-- Reads the text of a workflow. -/
def load (text : String) : Except (List LoadError) Workflow :=
  match WorkflowEnvelope.codec.ofText text with
  | .error e => .error [.workflow e]
  | .ok e => ofEnvelope e

end Workflow

end DataPipeline
