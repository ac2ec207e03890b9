import DataPipeline.Catalogue.Basic
import DataPipeline.Text.Basic
import DataPipeline.Validation.Fault

/-!
# What a node needs

The fields that a node must have before it can be compiled: those that the catalogue requires of
its kind, and for some kinds fields that are required because of what other fields say.

## Main definitions

* `Settings.needs`: fields required because of other fields
* `Node.faults`: a fault for every field that is missing
-/
namespace DataPipeline

/-- Whether an operation is the given one, up to case and surrounding white space. -/
def isOperation (operation : Option String) (name : String) : Bool :=
  operation.any fun op => Text.lower (Text.trim op) = name

/-- Missing fields that other fields make necessary. -/
def Settings.needs : Settings → List String
  | database s =>
    match s.access with
    | .write => if Text.isMissing s.table then ["table"] else []
    | .read =>
      if Text.isMissing s.table && Text.isMissing s.query then ["table or query"] else []
  | salesforceRead s =>
    if Text.isMissing s.soqlQuery && s.fields.all Text.isBlank then ["soql_query or fields"] else []
  | salesforceWrite s =>
    if isOperation s.operation "upsert" && Text.isMissing s.externalIdField then
      ["external_id_field"]
    else []
  | code s =>
    if !isOperation s.operation "delete" && Text.isMissing s.destinationPath then
      ["destination_path"]
    else []
  | _ => []

namespace Node

def missing (n : Node) : List String := n.kind.missing n.settings.toJson ++ n.settings.needs

def faults (n : Node) : List Fault := n.missing.map (.missingField n.kind n.id n.label ·)

end Node

end DataPipeline
