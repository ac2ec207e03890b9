import DataPipeline.Catalogue.Offer
import DataPipeline.Editor.Preview
import DataPipeline.Plan.Compile
import DataPipeline.Workflow.Document
import DataPipeline.Workflow.Edit

/-!
# The editor

What an editor that keeps no workflow of its own can ask: every request carries the text of the
workflow and is answered by a document. Requests never fail; what is wrong is part of the answer.

## Main definitions

* `PlanOptions.load`, `Node.load`: options and nodes read from a text
* `Editor.editOf`, `Editor.edit`: an edit of a workflow that has just been read
* `Editor.report`, `Editor.planAnswer`, … : the requests with their answers
-/
namespace DataPipeline

open Json (ReadError)

/-- Reads the text of options. -/
def PlanOptions.load (text : String) : Except LoadError PlanOptions :=
  (PlanOptions.codec.ofText text).mapError .options

/-- Reads the text of a node. -/
def Node.load (text : String) : Except LoadError Node := (Node.codec.ofText text).mapError .nodeText

namespace Editor

/-! ## Requests -/

/-- Options as the editor sends them: blank text stands for the defaults. -/
def options (text : String) : Except LoadError PlanOptions :=
  if Text.isBlank text then .ok {} else PlanOptions.load text

/-- The workflow in a text, with diagnostics for its faults. -/
def workflow (text : String) : Except (List Diagnostic) Workflow :=
  (Workflow.load text).mapError (·.map LoadError.diagnostic)

/-- The plan of the workflow in a text. The options are read first. -/
def plan (text optionsText : String) : Except (List Diagnostic) Plan := do
  let options ← (options optionsText).mapError fun e => [e.diagnostic]
  let w ← workflow text
  (w.compile options).mapError (·.map CompileError.diagnostic)

/-- The preview of the node in a text. The node is read first. -/
def preview (nodeText optionsText : String) : Except (List Diagnostic) Preview := do
  let n ← (Node.load nodeText).mapError fun e => [e.diagnostic]
  let options ← (options optionsText).mapError fun e => [e.diagnostic]
  (n.preview options).mapError fun e => [e.diagnostic]

/-- A workflow after an edit, if it could be read. -/
def editOf (source : Except (List LoadError) Workflow) (e : Edit) :
    Except (List Diagnostic) Workflow := do
  let w ← source.mapError (·.map LoadError.diagnostic)
  (w.apply e).mapError fun e => [e.diagnostic]

/-- The workflow in a text after an edit. -/
def edit (text : String) (e : Edit) : Except (List Diagnostic) Workflow :=
  editOf (Workflow.load text) e

/-- The edit that lays the object in a text over the settings of a node. -/
def patch (id patchText : String) : Except (List Diagnostic) Edit :=
  match Json.ofText patchText with
  | .ok j => .ok (.patchSettings id j)
  | .error e => .error [(LoadError.patchText e).diagnostic]

/-! ## Answers -/

def diagnostics (ds : List Diagnostic) : Json := .arr (ds.map Diagnostic.codec.toJson)

/-- The answer to a request that was refused. -/
def refusal (ds : List Diagnostic) : Json :=
  .obj [("status", .str "errors"), ("errors", diagnostics ds)]

def editAnswer : Except (List Diagnostic) Workflow → Json
  | .ok w => .obj [("status", .str "success"), ("snapshot", Workflow.codec.toJson w)]
  | .error ds => refusal ds

def report (text : String) : Json :=
  match workflow text with
  | .ok w => w.validate.toJson
  | .error ds => (Report.mk ds).toJson

def nodeReport (nodeText : String) : Json :=
  match Node.load nodeText with
  | .ok n => diagnostics (n.faults.map Fault.diagnostic)
  | .error e => diagnostics [e.diagnostic]

def planAnswer (text optionsText : String) : Json :=
  match plan text optionsText with
  | .ok p =>
    .obj [("status", .str "success"), ("dag", Dag.codec.toJson p.dag),
      ("configs", .arr (p.assignments.map Assignment.toJson))]
  | .error ds => refusal ds

/-- The chains of a workflow; none for a text that is refused. -/
def chainList (text : String) : Json :=
  .arr <| match workflow text with
    | .ok w => w.chains.map Chain.codec.toJson
    | .error _ => []

/-- The fields available to a node; none for a text that is refused. -/
def fieldList (text id : String) : Json :=
  .arr <| match workflow text with
    | .ok w => (w.offersTo id).map OfferedField.codec.toJson
    | .error _ => []

def previewAnswer (nodeText optionsText : String) : Json :=
  match preview nodeText optionsText with
  | .ok p => p.toJson
  | .error ds => refusal ds

def connect (text source target : String) : Json :=
  editAnswer (edit text (.connect source target))

def eraseNode (text id : String) : Json := editAnswer (edit text (.eraseNode id))

/-- The patch is read before the workflow. -/
def patchSettings (text id patchText : String) : Json :=
  editAnswer (patch id patchText >>= edit text)

end Editor

end DataPipeline
