import DataPipeline.Codec.Record

/-!
# Settings of file nodes

Nodes that read or write the records of a file, and nodes that copy, rename or delete files. The
settings of the latter also serve the generic code node, the only one to heed `operation`.

Like every source, a node that reads a file may declare the columns of its records. A column is a
nullable string unless it says otherwise.
-/
namespace DataPipeline

/-! ## Declared columns -/

structure Column where
  name : String
  type : String
  nullable : Bool
deriving DecidableEq

namespace Column

def layout : Layout Column Column :=
  Layout.make mk
    |>.field (.required "name" .text (·.name))
    |>.field (.orElse "type" .text "string" (·.type))
    |>.field (.orElse "nullable" .boolean true (·.nullable))

def codec : Codec Column := .record "FieldSpec" layout

end Column

/-! ## Reading -/

structure ReadFileSettings where
  label : Option String := none
  provider : Option String := none
  format : Option String := none
  path : Option String := none
  options : Dict Json := Dict.empty
  columns : List Column := []
  extra : Dict Json := Dict.empty

namespace ReadFileSettings

def layout : Layout ReadFileSettings (Dict Json → ReadFileSettings) :=
  Layout.make mk
    |>.field (.optional "label" .text (·.label))
    |>.field (.optional "provider" .text (·.provider))
    |>.field (.optional "format" .text (·.format))
    |>.field (.optional "path" .text (·.path))
    |>.field (.dict "options" (·.options))
    |>.field (.items "schema" Column.codec (·.columns))

def codec : Codec ReadFileSettings := .openRecord "ReadFileData" layout (·.extra)

end ReadFileSettings

/-! ## Writing -/

structure WriteFileSettings where
  label : Option String := none
  provider : Option String := none
  format : Option String := none
  path : Option String := none
  mode : Option String := none
  options : Dict Json := Dict.empty
  extra : Dict Json := Dict.empty

namespace WriteFileSettings

def layout : Layout WriteFileSettings (Dict Json → WriteFileSettings) :=
  Layout.make mk
    |>.field (.optional "label" .text (·.label))
    |>.field (.optional "provider" .text (·.provider))
    |>.field (.optional "format" .text (·.format))
    |>.field (.optional "path" .text (·.path))
    |>.field (.optional "mode" .text (·.mode))
    |>.field (.dict "options" (·.options))

def codec : Codec WriteFileSettings := .openRecord "WriteFileData" layout (·.extra)

end WriteFileSettings

/-! ## Operations on files -/

structure FileOperationSettings where
  label : Option String := none
  operation : Option String := none
  sourcePath : Option String := none
  destinationPath : Option String := none
  options : Dict Json := Dict.empty
  executedBy : Option String := none
  extra : Dict Json := Dict.empty

namespace FileOperationSettings

def layout : Layout FileOperationSettings (Dict Json → FileOperationSettings) :=
  Layout.make mk
    |>.field (.optional "label" .text (·.label))
    |>.field (.optional "operation" .text (·.operation))
    |>.field (.optional "source_path" .text (·.sourcePath))
    |>.field (.optional "destination_path" .text (·.destinationPath))
    |>.field (.dict "options" (·.options))
    |>.field (.optional "executed_by" .text (·.executedBy))

def codec : Codec FileOperationSettings := .openRecord "FileOperationData" layout (·.extra)

end FileOperationSettings

end DataPipeline
