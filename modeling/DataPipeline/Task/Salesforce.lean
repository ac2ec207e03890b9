import DataPipeline.Task.Options
import DataPipeline.Task.Storage
import DataPipeline.Workflow.Node

/-!
# Salesforce tasks

Queries that bring an object of Salesforce into a file, and loads that bring a file into an object.

## Main definitions

* `SalesforceQuery`, `Node.salesforceQuery`
* `LoadOperation`, `SalesforceLoad`, `Node.salesforceLoad`
* `bulkBatch`: the records of a bulk batch, which must be within bounds even when no bulk is used
-/
namespace DataPipeline

/-! ## Records -/

structure SalesforceQuery where
  objectName : String
  query : Option String
  fields : List String
  useBulkApi : Bool
  bulkBatchSize : UInt32
  filePath : String
deriving DecidableEq

namespace SalesforceQuery

def layout : Layout SalesforceQuery SalesforceQuery :=
  Layout.make mk
    |>.field (.required "object_name" .text (·.objectName))
    |>.field (.optional "query" .text (·.query))
    |>.field (.items "fields" .text (·.fields))
    |>.field (.required "use_bulk_api" .boolean (·.useBulkApi))
    |>.field (.required "bulk_batch_size" .word32 (·.bulkBatchSize))
    |>.field (.required "file_path" .text (·.filePath))

def codec : Codec SalesforceQuery := .record "SalesforceReadConfig" layout

end SalesforceQuery

inductive LoadOperation where
  | insert
  | update
  | upsert
  | delete
deriving DecidableEq

namespace LoadOperation

def all : List LoadOperation := [insert, update, upsert, delete]

def name : LoadOperation → String
  | insert => "insert"
  | update => "update"
  | upsert => "upsert"
  | delete => "delete"

def codec : Codec LoadOperation := .choice (all.map fun o => (o.name, o)) name

/-- The operation with a name, up to case. -/
def ofText (s : String) : Option LoadOperation := all.find? (·.name = Text.lower s)

end LoadOperation

structure SalesforceLoad where
  objectName : String
  operation : LoadOperation
  externalIdField : Option String
  fields : List String
  useBulkApi : Bool
  bulkBatchSize : UInt32
  filePath : String
deriving DecidableEq

namespace SalesforceLoad

def layout : Layout SalesforceLoad SalesforceLoad :=
  Layout.make mk
    |>.field (.required "object_name" .text (·.objectName))
    |>.field (.required "operation" LoadOperation.codec (·.operation))
    |>.field (.optional "external_id_field" .text (·.externalIdField))
    |>.field (.items "fields" .text (·.fields))
    |>.field (.required "use_bulk_api" .boolean (·.useBulkApi))
    |>.field (.required "bulk_batch_size" .word32 (·.bulkBatchSize))
    |>.field (.required "file_path" .text (·.filePath))

def codec : Codec SalesforceLoad := .record "SalesforceWriteConfig" layout

end SalesforceLoad

/-! ## From settings to tasks -/

/-- A value that must lie between two bounds, which it may reach. The bounds are those of an
unsigned word or narrower. -/
def within (nodeId field : String) (min max : Int) (value : Int64) : Except MapError UInt32 :=
  if min ≤ value.toInt ∧ value.toInt ≤ max then .ok (.ofNat value.toInt.toNat)
  else .error (.outOfBounds nodeId field min max value.toInt)

def bulkBatch (nodeId : String) (size : Option Int64) : Except MapError UInt32 :=
  match size with
  | none => .ok 2000
  | some n => within nodeId "bulk_batch_size" 1 10000 n

/-- The field names that are not blank, trimmed. -/
def givenFields (fields : List String) : List String :=
  (fields.filter (!Text.isBlank ·)).map Text.trim

/-- The query needs the text of a query or at least one field. -/
def SalesforceReadSettings.query (nodeId : String) (s : SalesforceReadSettings) :
    Except MapError SalesforceQuery := do
  let objectName ← required nodeId "object_name" s.objectName
  let query := Text.content s.soqlQuery
  let fields := givenFields s.fields
  if query.isNone && fields.isEmpty then .error (.missingField nodeId "soql_query")
  let size ← bulkBatch nodeId s.bulkBatchSize
  return {
    objectName := objectName
    query := query
    fields := fields
    useBulkApi := s.useBulkApi.getD false
    bulkBatchSize := size
    filePath := (Text.content s.filePath).getD ("salesforce/" ++ objectName ++ ".csv") }

/-- The operation of a load, by default an insertion. -/
def SalesforceWriteSettings.loadOperation (nodeId : String) (s : SalesforceWriteSettings) :
    Except MapError LoadOperation :=
  match Text.content s.operation with
  | none => .ok .insert
  | some name => match LoadOperation.ofText name with
    | some o => .ok o
    | none => .error (.invalidValue nodeId "operation" name "unknown write operation")

/-- An upsert needs the field that tells records apart. -/
def SalesforceWriteSettings.load (nodeId : String) (s : SalesforceWriteSettings) :
    Except MapError SalesforceLoad := do
  let objectName ← required nodeId "object_name" s.objectName
  let filePath ← required nodeId "file_path" s.filePath
  let operation ← s.loadOperation nodeId
  let externalIdField := Text.content s.externalIdField
  if operation = .upsert && externalIdField.isNone then
    .error (.missingField nodeId "external_id_field")
  let size ← bulkBatch nodeId s.bulkBatchSize
  return {
    objectName := objectName
    operation := operation
    externalIdField := externalIdField
    fields := givenFields s.fields
    useBulkApi := s.useBulkApi.getD true
    bulkBatchSize := size
    filePath := filePath }

def Node.salesforceQuery (n : Node) : Except MapError (Option SalesforceQuery) :=
  match n.settings with
  | .salesforceRead s => some <$> s.query n.id
  | _ => .ok none

def Node.salesforceLoad (n : Node) : Except MapError (Option SalesforceLoad) :=
  match n.settings with
  | .salesforceWrite s => some <$> s.load n.id
  | _ => .ok none

end DataPipeline
