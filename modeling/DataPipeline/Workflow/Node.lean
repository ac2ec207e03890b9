import DataPipeline.Settings.Basic

/-!
# Nodes

A node of a workflow: its settings with the place on the canvas, the outcome of its last run, and
the keys of its settings that the user has edited.

## Main definitions

* `Node`, `RunState`, `Position`
* `NodeEnvelope`: a node whose settings are still an untyped document
* `Node.ofEnvelope`: the node in an envelope
* `Node.codec`: nodes as documents
-/
namespace DataPipeline

open Json (ShapeError)

/-! ## Canvas and run -/

/-- A place on the canvas. It is kept and otherwise ignored. -/
structure Position where
  x : Binary64 := .zero false
  y : Binary64 := .zero false
deriving DecidableEq

namespace Position

def layout : Layout Position Position :=
  Layout.make mk
    |>.field (.required "x" .real (·.x))
    |>.field (.required "y" .real (·.y))

def codec : Codec Position := .record "Position" layout

end Position

/-- How the last run of a node went. -/
inductive RunState where
  | idle
  | running
  | success
  | error
deriving DecidableEq

namespace RunState

def all : List RunState := [idle, running, success, error]

def name : RunState → String
  | idle => "idle"
  | running => "running"
  | success => "success"
  | error => "error"

def codec : Codec RunState := .choice (all.map fun s => (s.name, s)) name

end RunState

/-! ## Nodes -/

structure Node where
  id : String
  settings : Settings
  position : Position := {}
  status : RunState := .idle
  /-- What the last run returned. -/
  output : Option Json := none
  /-- Why the last run failed. -/
  error : Option String := none
  /-- The id under which the task of the node is stored. -/
  configId : Option String := none
  /-- The keys of the settings that the user has edited. -/
  editedFields : KeySet := Dict.empty

namespace Node

def kind (n : Node) : Kind := n.settings.kind

/-- The label of a node, or the title of its kind when it has none. -/
def label (n : Node) : String := n.settings.label.getD n.kind.title

def isSource (n : Node) : Bool := n.settings.isSource

def isSink (n : Node) : Bool := n.settings.isSink

def isFilter (n : Node) : Bool := n.settings.isFilter

end Node

/-! ## Documents -/

/-- A node as it is written: the settings are a document until the kind is known. -/
structure NodeEnvelope where
  id : String
  type : String
  position : Position
  data : Json
  status : RunState
  output : Option Json
  error : Option String
  configId : Option String
  editedFields : KeySet

namespace NodeEnvelope

def layout : Layout NodeEnvelope NodeEnvelope :=
  Layout.make mk
    |>.field (.required "id" .text (·.id))
    |>.field (.required "type" .text (·.type))
    |>.field (.orElse "position" Position.codec {} (·.position))
    |>.field (.orElse "data" .any .null (·.data))
    |>.field (.orElse "status" RunState.codec .idle (·.status))
    |>.field (.optional "output" .any (·.output))
    |>.field (.optional "error" .text (·.error))
    |>.field (.optional "configId" .text (·.configId))
    |>.field (.keySet "editedFields" (·.editedFields))

def codec : Codec NodeEnvelope := .record "RawNode" layout

end NodeEnvelope

namespace Node

/-- The node in an envelope, if its type is known and its settings fit the type. -/
def ofEnvelope (e : NodeEnvelope) : Except ShapeError Node :=
  match Kind.ofName e.type with
  | none => .error (.unknownKind e.type)
  | some kind =>
    match Settings.ofJson kind e.data with
    | .error cause => .error (.badSettings kind.name e.id cause)
    | .ok settings =>
      .ok ⟨e.id, settings, e.position, e.status, e.output, e.error, e.configId, e.editedFields⟩

def toEnvelope (n : Node) : NodeEnvelope :=
  ⟨n.id, n.kind.name, n.position, n.settings.toJson, n.status, n.output, n.error, n.configId,
    n.editedFields⟩

def codec : Codec Node := NodeEnvelope.codec.refine ofEnvelope toEnvelope

end Node

end DataPipeline
