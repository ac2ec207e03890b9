import DataPipeline.Codec.Record

/-!
# Settings of Salesforce nodes

Nodes that query an object of Salesforce into a file, and nodes that load a file into an object.
-/
namespace DataPipeline

structure SalesforceReadSettings where
  label : Option String := none
  objectName : Option String := none
  soqlQuery : Option String := none
  fields : List String := []
  useBulkApi : Option Bool := none
  bulkBatchSize : Option Int64 := none
  filePath : Option String := none
  extra : Dict Json := Dict.empty

namespace SalesforceReadSettings

def layout : Layout SalesforceReadSettings (Dict Json → SalesforceReadSettings) :=
  Layout.make mk
    |>.field (.optional "label" .text (·.label))
    |>.field (.optional "object_name" .text (·.objectName))
    |>.field (.optional "soql_query" .text (·.soqlQuery))
    |>.field (.items "fields" .text (·.fields))
    |>.field (.optional "use_bulk_api" .boolean (·.useBulkApi))
    |>.field (.optional "bulk_batch_size" .int64 (·.bulkBatchSize))
    |>.field (.optional "file_path" .text (·.filePath))

def codec : Codec SalesforceReadSettings := .openRecord "SalesforceReadData" layout (·.extra)

end SalesforceReadSettings

structure SalesforceWriteSettings where
  label : Option String := none
  objectName : Option String := none
  operation : Option String := none
  externalIdField : Option String := none
  fields : List String := []
  useBulkApi : Option Bool := none
  bulkBatchSize : Option Int64 := none
  filePath : Option String := none
  extra : Dict Json := Dict.empty

namespace SalesforceWriteSettings

def layout : Layout SalesforceWriteSettings (Dict Json → SalesforceWriteSettings) :=
  Layout.make mk
    |>.field (.optional "label" .text (·.label))
    |>.field (.optional "object_name" .text (·.objectName))
    |>.field (.optional "operation" .text (·.operation))
    |>.field (.optional "external_id_field" .text (·.externalIdField))
    |>.field (.items "fields" .text (·.fields))
    |>.field (.optional "use_bulk_api" .boolean (·.useBulkApi))
    |>.field (.optional "bulk_batch_size" .int64 (·.bulkBatchSize))
    |>.field (.optional "file_path" .text (·.filePath))

def codec : Codec SalesforceWriteSettings := .openRecord "SalesforceWriteData" layout (·.extra)

end SalesforceWriteSettings

end DataPipeline
