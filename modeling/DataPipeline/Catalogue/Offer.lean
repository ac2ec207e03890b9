import DataPipeline.Catalogue.Basic
import DataPipeline.Workflow.Basic

/-!
# Offered fields

The fields that a node can use because a node in front of it hands them on: those of the catalogue,
followed by the columns that the source declares. A connection from an unknown node adds nothing.

## Main definitions

* `OfferedField`, `FieldOrigin`
* `Node.offers`: what a node hands on
* `Workflow.offersTo`: the fields available to a node
* `Workflow.allOffers`: the same for every node
-/
namespace DataPipeline

/-- The node that hands a field on. -/
structure FieldOrigin where
  nodeId : String
  kind : Kind
  label : String
deriving DecidableEq

namespace FieldOrigin

def layout : Layout FieldOrigin FieldOrigin :=
  Layout.make mk
    |>.field (.required "sourceNodeId" .text (·.nodeId))
    |>.field (.required "sourceNodeType" Kind.codec (·.kind))
    |>.field (.required "sourceNodeLabel" .text (·.label))

def codec : Codec FieldOrigin := .record "FieldSource" layout

end FieldOrigin

structure OfferedField where
  name : String
  type : String
  origin : FieldOrigin
deriving DecidableEq

namespace OfferedField

def layout : Layout OfferedField OfferedField :=
  Layout.make mk
    |>.field (.required "name" .text (·.name))
    |>.field (.required "fieldType" .text (·.type))
    |>.field (.required "source" FieldOrigin.codec (·.origin))

def codec : Codec OfferedField := .record "AvailableField" layout

end OfferedField

/-- What a node hands on: the fields of its kind, then the columns that it declares. -/
def Node.offers (n : Node) : List OfferedField :=
  let origin : FieldOrigin := ⟨n.id, n.kind, n.label⟩
  n.kind.outputs.map (fun f => ⟨f.name, f.type.name, origin⟩) ++
    n.settings.sourceColumns.map (fun c => ⟨c.name, c.type, origin⟩)

namespace Workflow

/-- Appends fields whose name their origin has not given yet. -/
def addFields (known fields : List OfferedField) : List OfferedField :=
  fields.foldl (fun known f =>
    if known.any fun g => g.origin.nodeId = f.origin.nodeId && g.name = f.name then known
    else known ++ [f]) known

/-- The fields available to a node, in the order of the connections into it. -/
def offersTo (w : Workflow) (id : String) : List OfferedField :=
  (w.connections.filter (·.target = id)).foldl (fun known c =>
    match w.node c.source with
    | some source => addFields known source.offers
    | none => known) []

/-- The available fields of every node. -/
def allOffers (w : Workflow) : Dict (List OfferedField) :=
  Dict.ofList (w.ids.map fun id => (id, w.offersTo id))

end Workflow

end DataPipeline
