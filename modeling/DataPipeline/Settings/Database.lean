import DataPipeline.Codec.Choice
import DataPipeline.Settings.File

/-!
# Settings of database nodes

A database node is a source or a sink, as its access says. The table may be given under the key
`path` too, which is where mapped records have it. Passwords are never part of the settings: a
secret is referred to by its name.
-/
namespace DataPipeline

inductive Access where
  | read
  | write
deriving DecidableEq

namespace Access

def name : Access → String
  | read => "read"
  | write => "write"

def codec : Codec Access := .choice [("read", read), ("write", write)] name

end Access

structure DatabaseSettings where
  label : Option String := none
  access : Access := .read
  connectionUrl : Option String := none
  table : Option String := none
  query : Option String := none
  driver : Option String := none
  username : Option String := none
  secretName : Option String := none
  mode : Option String := none
  options : Dict Json := Dict.empty
  columns : List Column := []
  extra : Dict Json := Dict.empty

namespace DatabaseSettings

def layout : Layout DatabaseSettings (Dict Json → DatabaseSettings) :=
  Layout.make mk
    |>.field (.optional "label" .text (·.label))
    |>.field (.orElse "access" Access.codec .read (·.access))
    |>.field (.optional "connection_url" .text (·.connectionUrl))
    |>.field ((Field.optional "table" .text (·.table)).alsoReadAs "path")
    |>.field (.optional "query" .text (·.query))
    |>.field (.optional "driver" .text (·.driver))
    |>.field (.optional "username" .text (·.username))
    |>.field (.optional "secret_name" .text (·.secretName))
    |>.field (.optional "mode" .text (·.mode))
    |>.field (.dict "options" (·.options))
    |>.field (.items "schema" Column.codec (·.columns))

def codec : Codec DatabaseSettings := .openRecord "DatabaseData" layout (·.extra)

end DatabaseSettings

end DataPipeline
