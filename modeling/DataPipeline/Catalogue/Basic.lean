import DataPipeline.Json.Basic
import DataPipeline.Kind
import DataPipeline.Text.Basic

/-!
# The catalogue of fields

What each kind of node takes from its settings and what it hands on to the nodes behind it. A
required field has to be there before a node can be compiled.

## Main definitions

* `FieldType`, `CatalogueField`
* `Kind.inputs`, `Kind.outputs`: the catalogue
* `Kind.missing`: the required fields that a document of settings leaves empty
-/
namespace DataPipeline

inductive FieldType where
  | string
  | integer
  | boolean
  | object
  | array
  | path
  | datetime
deriving DecidableEq

def FieldType.name : FieldType → String
  | string => "string"
  | integer => "integer"
  | boolean => "boolean"
  | object => "object"
  | array => "array"
  | path => "path"
  | datetime => "datetime"

structure CatalogueField where
  name : String
  type : FieldType
  required : Bool
deriving DecidableEq

namespace CatalogueField

def need (name : String) (type : FieldType) : CatalogueField := ⟨name, type, true⟩

def allow (name : String) (type : FieldType) : CatalogueField := ⟨name, type, false⟩

def toJson (f : CatalogueField) : Json :=
  .obj [("name", .str f.name), ("field_type", .str f.type.name), ("required", .bool f.required)]

end CatalogueField

namespace Kind

open CatalogueField (need allow)

/-! ## What a kind takes -/

def inputs : Kind → List CatalogueField
  | start | finish => []
  | readFile =>
    [need "path" .path, allow "format" .string, allow "provider" .string, allow "options" .object,
      allow "schema" .array]
  | writeFile =>
    [need "path" .path, allow "format" .string, allow "provider" .string, allow "mode" .string,
      allow "options" .object]
  | copyFile | renameFile =>
    [need "source_path" .path, need "destination_path" .path, allow "options" .object,
      allow "executed_by" .string]
  | deleteFile =>
    [need "source_path" .path, allow "options" .object, allow "executed_by" .string]
  | inlineInput =>
    [allow "rows" .array, allow "format" .string, allow "path" .path, allow "schema" .array]
  | inlineOutput =>
    [allow "path" .path, allow "format" .string, allow "provider" .string, allow "mode" .string]
  | database =>
    [need "connection_url" .string, allow "access" .string, allow "table" .string,
      allow "query" .string, allow "driver" .string, allow "username" .string,
      allow "secret_name" .string, allow "mode" .string]
  | salesforceRead =>
    [need "object_name" .string, allow "soql_query" .string, allow "fields" .array,
      allow "use_bulk_api" .boolean, allow "bulk_batch_size" .integer, allow "file_path" .path]
  | salesforceWrite =>
    [need "object_name" .string, need "file_path" .path, allow "operation" .string,
      allow "external_id_field" .string, allow "fields" .array, allow "use_bulk_api" .boolean,
      allow "bulk_batch_size" .integer]
  | filter =>
    [allow "operator" .string, allow "conditions" .array, allow "order_by" .array,
      allow "aggregation" .object]
  | scheduler =>
    [need "start_time" .datetime, allow "target_dag_id" .string, allow "interval" .integer,
      allow "unit" .string, allow "occurrence_limit" .integer, allow "active" .boolean]
  | code =>
    [need "operation" .string, need "source_path" .path, allow "destination_path" .path,
      allow "options" .object, allow "executed_by" .string]

/-! ## What a kind hands on -/

def outputs : Kind → List CatalogueField
  | start | finish => []
  | readFile => [allow "file_path" .path, allow "format" .string, allow "records" .array]
  | writeFile | inlineOutput =>
    [allow "file_path" .path, allow "format" .string, allow "rows_written" .integer]
  | copyFile | renameFile => [allow "destination_path" .path, allow "exit_code" .integer]
  | deleteFile => [allow "deleted_path" .path, allow "exit_code" .integer]
  | inlineInput | filter => [allow "records" .array]
  | database => [allow "table" .string, allow "records" .array, allow "rows_written" .integer]
  | salesforceRead =>
    [allow "file_path" .path, allow "records" .array, allow "record_count" .integer]
  | salesforceWrite =>
    [allow "job_id" .string, allow "records_processed" .integer, allow "records_failed" .integer]
  | scheduler => [allow "dag_id" .string, allow "next_run_time" .datetime]
  | code =>
    [allow "destination_path" .path, allow "exit_code" .integer, allow "stdout" .string]

/-! ## Missing fields -/

/-- Whether a value counts as given: neither `null`, nor blank text, nor an empty list. -/
def isGiven : Option Json → Bool
  | none | some .null => false
  | some (.str s) => !Text.isBlank s
  | some (.arr items) => !items.isEmpty
  | some _ => true

/-- The names of required fields that a document of settings leaves empty. -/
def missing (k : Kind) (data : Json) : List String :=
  (k.inputs.filter fun f => f.required && !isGiven (data.member f.name)).map (·.name)

end Kind

end DataPipeline
