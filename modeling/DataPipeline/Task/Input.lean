import DataPipeline.Task.Storage
import DataPipeline.Workflow.Node

/-!
# Inputs of conversions

The half of a file conversion that says where the records come from.

## Main definitions

* `ConversionInput`, `ConversionInput.codec`
* `databaseAddress`, `connectionOptions`: what both ends of a database have in common
* `Node.conversionInput`: the input that a source stands for; other nodes have none
-/
namespace DataPipeline

structure ConversionInput where
  provider : String
  format : String
  path : String
  options : Dict Json
  columns : Option (List Column)
  rows : Option (List Json)

namespace ConversionInput

def layout : Layout ConversionInput ConversionInput :=
  Layout.make mk
    |>.field (.required "provider" .text (·.provider))
    |>.field (.required "format" .text (·.format))
    |>.field (.required "path" .text (·.path))
    |>.field (.required "options" .dict (·.options))
    |>.field (.optional "schema" Column.codec.list (·.columns))
    |>.field (.optional "inline_data" Codec.any.list (·.rows))

def codec : Codec ConversionInput := .record "InputConfig" layout

end ConversionInput

/-- The columns of a source, if it declares any. -/
def declared (columns : List Column) : Option (List Column) :=
  if columns.isEmpty then none else some columns

/-! ## Files and inline records -/

/-- The path of inline records, which need none. -/
def inlineLocation (nodeId : String) (path : Option String) : String :=
  (Text.content path).getD ("inline/" ++ nodeId ++ ".json")

/-- The format of inline records, by default the one they have in the workflow. -/
def inlineFormat (nodeId : String) (format : Option String) : Except MapError String :=
  match Text.content format with
  | some f => formatNamed nodeId f
  | none => .ok "json"

def ReadFileSettings.input (nodeId : String) (s : ReadFileSettings) :
    Except MapError ConversionInput := do
  let path ← required nodeId "path" s.path
  let format ← chooseFormat nodeId s.format path
  return {
    provider := chooseProvider s.provider path
    format := format
    path := path
    options := withDefaults s.options (inputDefaults format)
    columns := declared s.columns
    rows := none }

def InlineInputSettings.input (nodeId : String) (s : InlineInputSettings) :
    Except MapError ConversionInput := do
  let format ← inlineFormat nodeId s.format
  return {
    provider := "inline"
    format := format
    path := inlineLocation nodeId s.path
    options := withDefaults Dict.empty (inputDefaults format)
    columns := declared s.columns
    rows := some s.rows }

/-! ## Databases -/

/-- The address of a database; when the field is absent, the one among the options. -/
def databaseAddress (nodeId : String) (s : DatabaseSettings) : Except MapError String :=
  required nodeId "connection_url" (s.connectionUrl <|> (s.options.find? "url").bind Json.text?)

/-- Sets an option to a text, if there is one. -/
def setText (options : Dict Json) (key : String) (value : Option String) : Dict Json :=
  match value with
  | some s => options.insert key (.str s)
  | none => options

/-- The options of a database: those of the user overlaid by address, driver, user and secret. -/
def connectionOptions (url : String) (s : DatabaseSettings) : Dict Json :=
  let options := s.options.insert "url" (.str url)
  let options := setText options "driver" (Text.content s.driver <|> driverOfUrl url)
  let options := setText options "user" (Text.content s.username)
  setText options "password_secret" (Text.content s.secretName)

/-- A query is preferred to a table, which then only names the input. -/
def DatabaseSettings.input (nodeId : String) (s : DatabaseSettings) :
    Except MapError ConversionInput := do
  let url ← databaseAddress nodeId s
  let options := connectionOptions url s
  let (path, options) ← match Text.content s.table, Text.content s.query with
    | table, some query => .ok (table.getD "query", options.insert "query" (.str query))
    | some table, none => .ok (table, options.insert "dbtable" (.str table))
    | none, none => .error (MapError.missingField nodeId "table")
  return {
    provider := "jdbc"
    format := "jdbc"
    path := path
    options := options
    columns := declared s.columns
    rows := none }

/-- The input that a source stands for. -/
def Node.conversionInput (n : Node) : Except MapError (Option ConversionInput) :=
  match n.settings with
  | .readFile s => some <$> s.input n.id
  | .inlineInput s => some <$> s.input n.id
  | .database s => if s.access = .read then some <$> s.input n.id else .ok none
  | _ => .ok none

end DataPipeline
