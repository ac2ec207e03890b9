import DataPipeline.Catalogue.Inheritance
import DataPipeline.Diagnostic
import DataPipeline.Graph.Reachability

/-!
# Editing workflows

An edit either changes a workflow or is rejected with a reason. No edit adds a repeated id, a
dangling, repeated or looping connection, or a cycle; a workflow that has them can be edited all the
same.

## Main definitions

* `EditError`: why an edit is rejected
* `Workflow.insertNode`, `Workflow.eraseNode`, `Workflow.connect`, `Workflow.disconnect`,
  `Workflow.patchSettings`: the edits of the user
* `Workflow.recordRun`, `Workflow.storeConfigId`: what the engine and the store report
* `Edit`, `Workflow.apply`: edits as values
-/
namespace DataPipeline

open Json (ShapeError)

/-! ## Rejected edits -/

inductive EditError where
  | unknownNode (id : String)
  | repeatedNode (id : String)
  | repeatedConnection (source target : String)
  | wouldCycle (source target : String)
  | selfLoop (id : String)
  | noConnection (source target : String)
  | patchNotObject (id : String)
  | badPatch (id : String) (cause : ShapeError)
deriving DecidableEq

namespace EditError

def code : EditError → String
  | unknownNode _ => "G001"
  | repeatedNode _ => "G002"
  | repeatedConnection _ _ => "G003"
  | wouldCycle _ _ => "G004"
  | selfLoop _ => "G005"
  | noConnection _ _ => "G006"
  | patchNotObject _ | badPatch _ _ => "G007"

/-- The names of the endpoints in messages. -/
def arrow (source target : String) : String := "from '" ++ source ++ "' to '" ++ target ++ "'"

def message : EditError → String
  | unknownNode id => "Node '" ++ id ++ "' does not exist"
  | repeatedNode id => "Node '" ++ id ++ "' already exists"
  | repeatedConnection s t => "Connection " ++ arrow s t ++ " already exists"
  | wouldCycle s t => "Connection " ++ arrow s t ++ " would create a cycle"
  | selfLoop id => "Node '" ++ id ++ "' cannot connect to itself"
  | noConnection s t => "No connection " ++ arrow s t
  | patchNotObject id =>
    "Data patch for node '" ++ id ++ "' is invalid: patch must be a JSON object"
  | badPatch id cause => "Data patch for node '" ++ id ++ "' is invalid: " ++ cause.message

def nodeId : EditError → String
  | unknownNode id | repeatedNode id | selfLoop id | patchNotObject id | badPatch id _ => id
  | repeatedConnection s _ | wouldCycle s _ | noConnection s _ => s

def diagnostic (e : EditError) : Diagnostic := ⟨e.code, .edit, e.message, some e.nodeId⟩

end EditError

namespace Workflow

/-! ## Nodes -/

/-- Adds a node with a new id. -/
def insertNode (w : Workflow) (n : Node) : Except EditError Workflow :=
  if (w.node n.id).isSome then .error (.repeatedNode n.id)
  else .ok { w with nodes := w.nodes ++ [n] }

/-- Removes the first node with the id and every connection that touches the id. -/
def eraseNode (w : Workflow) (id : String) : Except EditError (Node × Workflow) :=
  match w.node id with
  | none => .error (.unknownNode id)
  | some n =>
    .ok (n, ⟨w.nodes.eraseP (·.id = id), w.connections.filter (!·.touches id)⟩)

/-- Changes the first node with the id. -/
def modifyFirst (id : String) (f : Node → Node) : List Node → List Node
  | [] => []
  | n :: ns => if n.id = id then f n :: ns else n :: modifyFirst id f ns

/-- Changes the first node with the id, if there is one. -/
def modifyNode (w : Workflow) (id : String) (f : Node → Node) : Except EditError Workflow :=
  if (w.node id).isSome then .ok { w with nodes := modifyFirst id f w.nodes }
  else .error (.unknownNode id)

/-! ## Connections -/

/-- Connects two nodes. The connection may neither exist nor close a cycle. The target takes over
the path of the source if it has a use for it. -/
def connect (w : Workflow) (source target : String) : Except EditError Workflow :=
  match w.node source, w.node target with
  | none, _ => .error (.unknownNode source)
  | some _, none => .error (.unknownNode target)
  | some s, some _ =>
    if source = target then .error (.selfLoop source)
    else if (⟨source, target⟩ : Connection) ∈ w.connections then
      .error (.repeatedConnection source target)
    else if w.graph.reaches target source then .error (.wouldCycle source target)
    else .ok ⟨modifyFirst target s.inheritPath w.nodes, w.connections ++ [⟨source, target⟩]⟩

/-- Removes every connection between two ids. -/
def disconnect (w : Workflow) (source target : String) : Except EditError Workflow :=
  if (⟨source, target⟩ : Connection) ∈ w.connections then
    .ok { w with connections := w.connections.filter (· ≠ ⟨source, target⟩) }
  else .error (.noConnection source target)

/-! ## Settings -/

/-- The settings of a node as a document, overlaid by a patch. -/
def mergedSettings (n : Node) (patch : List (String × Json)) : Json :=
  match n.settings.toJson with
  | .obj members => .ofDict ((Dict.ofList members).overlayList patch)
  | _ => .ofDict (Dict.ofList patch)

/-- Lays an object over the settings of a node: its keys get its values and count as edited, all
other keys keep theirs. -/
def patchSettings (w : Workflow) (id : String) (patch : Json) : Except EditError Workflow :=
  match w.node id with
  | none => .error (.unknownNode id)
  | some n =>
    match patch with
    | .obj members =>
      match Settings.ofJson n.kind (mergedSettings n members) with
      | .error cause => .error (.badPatch id cause)
      | .ok settings =>
        w.modifyNode id fun n =>
          { n with
            settings := settings
            editedFields := n.editedFields.addAll (members.map (·.1)) }
    | _ => .error (.patchNotObject id)

/-! ## Reports from outside -/

/-- Stores how the last run of a node went, over what was there. -/
def recordRun (w : Workflow) (id : String) (status : RunState) (output : Option Json)
    (error : Option String) : Except EditError Workflow :=
  w.modifyNode id fun n => { n with status := status, output := output, error := error }

/-- Stores the id under which the task of a node is kept. -/
def storeConfigId (w : Workflow) (id configId : String) : Except EditError Workflow :=
  w.modifyNode id fun n => { n with configId := some configId }

end Workflow

/-! ## Edits as values -/

inductive Edit where
  | insertNode (node : Node)
  | eraseNode (id : String)
  | connect (source target : String)
  | disconnect (source target : String)
  | patchSettings (id : String) (patch : Json)
  | recordRun (id : String) (status : RunState) (output : Option Json) (error : Option String)
  | storeConfigId (id configId : String)

namespace Workflow

/-- The workflow after an edit. -/
def apply (w : Workflow) : Edit → Except EditError Workflow
  | .insertNode n => w.insertNode n
  | .eraseNode id => (·.2) <$> w.eraseNode id
  | .connect s t => w.connect s t
  | .disconnect s t => w.disconnect s t
  | .patchSettings id patch => w.patchSettings id patch
  | .recordRun id status output error => w.recordRun id status output error
  | .storeConfigId id configId => w.storeConfigId id configId

/-- The workflow after an edit, which is the same one if the edit is rejected. -/
def attempt (w : Workflow) (e : Edit) : Workflow :=
  match w.apply e with
  | .ok w' => w'
  | .error _ => w

/-- The workflow after a sequence of edits. -/
def run (w : Workflow) (es : List Edit) : Workflow := es.foldl attempt w

end Workflow

end DataPipeline
