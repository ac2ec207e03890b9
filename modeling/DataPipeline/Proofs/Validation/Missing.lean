import DataPipeline.Proofs.Settings.Forms
import DataPipeline.Validation.Node

/-!
# Missing fields

Validation looks for the required fields of a node in the document of its settings. Each of these
fields is one of the record. In settings that keep no key that their kind knows, the document has it
with the text that the record has.

## Main definitions

* `Settings.wanted`: the fields that the catalogue requires, with their texts

## Main results

* `Settings.missing_toJson`, `Settings.Apart.missing_toJson`: which of them validation finds missing
* `Node.faults_eq_nil_iff`: when a node has all its fields
-/
namespace DataPipeline

/-! ## Wanted fields -/

/-- The fields that the catalogue requires of the settings, with their texts. -/
def Settings.wanted : Settings → List (String × Option String)
  | readFile s => [("path", s.path)]
  | writeFile s => [("path", s.path)]
  | copyFile s | renameFile s =>
    [("source_path", s.sourcePath), ("destination_path", s.destinationPath)]
  | deleteFile s => [("source_path", s.sourcePath)]
  | database s => [("connection_url", s.connectionUrl)]
  | salesforceRead s => [("object_name", s.objectName)]
  | salesforceWrite s => [("object_name", s.objectName), ("file_path", s.filePath)]
  | scheduler s => [("start_time", s.startTime)]
  | code s => [("operation", s.operation), ("source_path", s.sourcePath)]
  | _ => []

theorem Kind.isGiven_text (o : Option String) : isGiven (o.map .str) = !Text.isMissing o := by
  cases o <;> rfl

namespace FileOperationSettings

theorem has_operation : Layout.Has (.optional "operation" .text operation) layout := by
  repeat constructor

theorem has_sourcePath : Layout.Has (.optional "source_path" .text sourcePath) layout := by
  repeat constructor

theorem has_destinationPath :
    Layout.Has (.optional "destination_path" .text destinationPath) layout := by
  repeat constructor

end FileOperationSettings

namespace SalesforceWriteSettings

theorem has_objectName : Layout.Has (.optional "object_name" .text objectName) layout := by
  repeat constructor

theorem has_filePath : Layout.Has (.optional "file_path" .text filePath) layout := by
  repeat constructor

end SalesforceWriteSettings

theorem ReadFileSettings.has_path : Layout.Has (.optional "path" .text path) layout := by
  repeat constructor

theorem WriteFileSettings.has_path : Layout.Has (.optional "path" .text path) layout := by
  repeat constructor

theorem DatabaseSettings.has_connectionUrl :
    Layout.Has (.optional "connection_url" .text connectionUrl) layout := by
  repeat constructor

theorem SalesforceReadSettings.has_objectName :
    Layout.Has (.optional "object_name" .text objectName) layout := by
  repeat constructor

theorem SchedulerSettings.has_startTime :
    Layout.Has (.optional "start_time" .text startTime) layout := by
  repeat constructor

namespace Settings

variable {s : Settings}

/-- The wanted fields are those that the catalogue requires. -/
theorem map_fst_wanted (s : Settings) :
    s.wanted.map (·.1) = (s.kind.inputs.filter (·.required)).map (·.name) := by
  cases s <;> rfl

/-- The document has the wanted fields with their texts, unless a further key gets in the way. -/
theorem member_wanted (s : Settings) : ∀ f ∈ s.wanted,
    s.toJson.member f.1 = ((s.extra.find? f.1).map Json.sorted).or (f.2.map .str) := by
  cases s with
  | readFile s =>
    rw [wanted, List.forall_mem_singleton]
    exact ReadFileSettings.has_path.member_sorted ReadFileSettings.lawful.keys
  | writeFile s =>
    rw [wanted, List.forall_mem_singleton]
    exact WriteFileSettings.has_path.member_sorted WriteFileSettings.lawful.keys
  | copyFile s | renameFile s =>
    rw [wanted, List.forall_mem_cons, List.forall_mem_singleton]
    exact ⟨FileOperationSettings.has_sourcePath.member_sorted FileOperationSettings.lawful.keys,
      FileOperationSettings.has_destinationPath.member_sorted FileOperationSettings.lawful.keys⟩
  | deleteFile s =>
    rw [wanted, List.forall_mem_singleton]
    exact FileOperationSettings.has_sourcePath.member_sorted FileOperationSettings.lawful.keys
  | code s =>
    rw [wanted, List.forall_mem_cons, List.forall_mem_singleton]
    exact ⟨FileOperationSettings.has_operation.member_sorted FileOperationSettings.lawful.keys,
      FileOperationSettings.has_sourcePath.member_sorted FileOperationSettings.lawful.keys⟩
  | database s =>
    rw [wanted, List.forall_mem_singleton]
    exact DatabaseSettings.has_connectionUrl.member_sorted DatabaseSettings.lawful.keys
  | salesforceRead s =>
    rw [wanted, List.forall_mem_singleton]
    exact SalesforceReadSettings.has_objectName.member_sorted SalesforceReadSettings.lawful.keys
  | salesforceWrite s =>
    rw [wanted, List.forall_mem_cons, List.forall_mem_singleton]
    exact ⟨SalesforceWriteSettings.has_objectName.member_sorted
        SalesforceWriteSettings.lawful.keys,
      SalesforceWriteSettings.has_filePath.member_sorted SalesforceWriteSettings.lawful.keys⟩
  | scheduler s =>
    rw [wanted, List.forall_mem_singleton]
    exact SchedulerSettings.has_startTime.member_sorted SchedulerSettings.lawful.keys
  | _ => exact List.forall_mem_nil _

/-- Which of the wanted fields validation finds missing is seen from the document. -/
theorem missing_toJson (s : Settings) :
    s.kind.missing s.toJson =
      (s.wanted.filter fun f => !Kind.isGiven (s.toJson.member f.1)).map (·.1) :=
  calc s.kind.missing s.toJson
      = ((s.kind.inputs.filter (·.required)).map (·.name)).filter
          fun name => !Kind.isGiven (s.toJson.member name) := by
        rw [Kind.missing, List.filter_map, List.filter_filter]
        exact congrArg _ (List.filter_congr fun f _ => Bool.and_comm _ _)
    _ = (s.wanted.map (·.1)).filter fun name => !Kind.isGiven (s.toJson.member name) := by
        rw [map_fst_wanted]
    _ = (s.wanted.filter fun f => !Kind.isGiven (s.toJson.member f.1)).map (·.1) := by
        rw [List.filter_map]
        rfl

/-- The keys that the catalogue requires are known. -/
theorem fst_mem_keys_of_mem_wanted {f : String × Option String} (hf : f ∈ s.wanted) :
    f.1 ∈ s.kind.keys := by
  have hname : f.1 ∈ (s.kind.inputs.filter (·.required)).map (·.name) :=
    map_fst_wanted s ▸ List.mem_map_of_mem hf
  obtain ⟨g, hg, hname⟩ := List.mem_map.1 hname
  exact hname ▸ s.kind.name_mem_keys g (List.mem_of_mem_filter hg)

/-- Validation finds the wanted fields missing that have no content. -/
theorem Apart.missing_toJson (h : s.Apart) :
    s.kind.missing s.toJson = (s.wanted.filter (Text.isMissing ·.2)).map (·.1) := by
  rw [Settings.missing_toJson]
  refine congrArg _ (List.filter_congr fun f hf => ?_)
  have hfree : s.extra.find? f.1 = none := Dict.lookup_eq_none_iff.2 fun m hm heq =>
    h m hm (heq ▸ fst_mem_keys_of_mem_wanted hf)
  rw [s.member_wanted f hf, hfree, Option.map_none, Option.none_or, Kind.isGiven_text, Bool.not_not]

end Settings

namespace Node

variable {n : Node}

theorem missing_eq (h : n.settings.Apart) :
    n.missing = (n.settings.wanted.filter (Text.isMissing ·.2)).map (·.1) ++ n.settings.needs :=
  congrArg (· ++ _) h.missing_toJson

theorem faults_eq_nil_iff (h : n.settings.Apart) :
    n.faults = [] ↔
      (∀ f ∈ n.settings.wanted, Text.isMissing f.2 = false) ∧ n.settings.needs = [] := by
  simp [faults, missing_eq h]

end Node

end DataPipeline
