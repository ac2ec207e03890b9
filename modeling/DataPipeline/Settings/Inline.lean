import DataPipeline.Settings.File

/-!
# Settings of inline nodes

Records that are part of the workflow document itself, and records that are shown to the user.
-/
namespace DataPipeline

structure InlineInputSettings where
  label : Option String := none
  format : Option String := none
  path : Option String := none
  rows : List Json := []
  columns : List Column := []
  extra : Dict Json := Dict.empty

namespace InlineInputSettings

def layout : Layout InlineInputSettings (Dict Json → InlineInputSettings) :=
  Layout.make mk
    |>.field (.optional "label" .text (·.label))
    |>.field (.optional "format" .text (·.format))
    |>.field (.optional "path" .text (·.path))
    |>.field (.items "rows" .any (·.rows))
    |>.field (.items "schema" Column.codec (·.columns))

def codec : Codec InlineInputSettings := .openRecord "InlineInputData" layout (·.extra)

end InlineInputSettings

structure InlineOutputSettings where
  label : Option String := none
  provider : Option String := none
  format : Option String := none
  path : Option String := none
  mode : Option String := none
  options : Dict Json := Dict.empty
  extra : Dict Json := Dict.empty

namespace InlineOutputSettings

def layout : Layout InlineOutputSettings (Dict Json → InlineOutputSettings) :=
  Layout.make mk
    |>.field (.optional "label" .text (·.label))
    |>.field (.optional "provider" .text (·.provider))
    |>.field (.optional "format" .text (·.format))
    |>.field (.optional "path" .text (·.path))
    |>.field (.optional "mode" .text (·.mode))
    |>.field (.dict "options" (·.options))

def codec : Codec InlineOutputSettings := .openRecord "InlineOutputData" layout (·.extra)

end InlineOutputSettings

end DataPipeline
