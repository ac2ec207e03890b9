import DataPipeline.Dict
import DataPipeline.Json.Basic
import DataPipeline.Task.Error
import DataPipeline.Text.Basic

/-!
# Storage

Where records are kept and in which form: the provider of a path, the format of a file, the mode of
a write, and the options that go with a format.

## Main definitions

* `required`: a text field that must not be missing
* `providerOfPath`, `chooseProvider`, `chooseFormat`, `chooseMode`
* `inputDefaults`, `outputDefaults`: options that hold unless the user sets them
* `driverOfUrl`: the driver class for the address of a database
-/
namespace DataPipeline

/-- The trimmed text of a field that must be there. -/
def required (nodeId field : String) (value : Option String) : Except MapError String :=
  match Text.content value with
  | some s => .ok s
  | none => .error (.missingField nodeId field)

/-! ## Providers -/

/-- The provider that the scheme of a path stands for. -/
def providerOfPath (path : String) : String :=
  match (Text.cut "://".toList path.toList).map fun parts => String.ofList parts.1 with
  | some "s3" | some "s3a" => "s3"
  | some "gs" => "gcs"
  | some "abfss" | some "wasbs" => "azure"
  | some "hdfs" => "hdfs"
  | _ => "local"

def chooseProvider (provider : Option String) (path : String) : String :=
  match Text.content provider with
  | some p => Text.lower p
  | none => providerOfPath path

/-! ## Formats -/

def fileFormats : List String := ["csv", "json", "parquet", "avro", "orc", "text", "xml", "delta"]

/-- The name of a format, if it is known. -/
def formatNamed (nodeId format : String) : Except MapError String :=
  let name := Text.lower (Text.trim format)
  if fileFormats.contains name then .ok name
  else .error (.invalidValue nodeId "format" format "unsupported file format")

/-- What follows the last point in the last part of a path, if anything does. -/
def extension (path : String) : Option String :=
  let file := match Text.cutLast '/' path.toList with
    | some (_, file) => file
    | none => path.toList
  match Text.cutLast '.' file with
  | some (_, c :: cs) => some (String.ofList (c :: cs))
  | _ => none

/-- The format that is given, or else the one that the path has as its extension. -/
def chooseFormat (nodeId : String) (format : Option String) (path : String) :
    Except MapError String :=
  match Text.content format with
  | some f => formatNamed nodeId f
  | none => match extension path with
    | some e => formatNamed nodeId e
    | none => .error (.missingField nodeId "format")

/-! ## Modes of writing -/

def writingModes : List String := ["overwrite", "append", "ignore", "error"]

def chooseMode (nodeId : String) (mode : Option String) (default : String) :
    Except MapError String :=
  match Text.content mode with
  | none => .ok default
  | some m =>
    if writingModes.contains (Text.lower m) then .ok (Text.lower m)
    else .error (.invalidValue nodeId "mode" m "unknown write mode")

/-! ## Options of formats -/

def inputDefaults (format : String) : List (String × Json) :=
  if format = "csv" then
    [("header", .bool true), ("inferSchema", .bool false), ("delimiter", .str ",")]
  else if format = "json" then [("multiLine", .bool false)]
  else []

def outputDefaults (format : String) : List (String × Json) :=
  if format = "csv" then [("header", .bool true)]
  else if format = "parquet" then [("compression", .str "snappy")]
  else []

/-- Adds the options that the user has not set. -/
def withDefaults (options : Dict Json) (defaults : List (String × Json)) : Dict Json :=
  defaults.foldl (fun d e => d.insertNew e.1 e.2) options

/-! ## Databases -/

/-- The driver class for the scheme of an address, which may stand behind `jdbc:`. -/
def driverOfUrl (url : String) : Option String :=
  let chars := url.toList
  let jdbc := "jdbc:".toList
  let rest := if jdbc.isPrefixOf chars then chars.drop jdbc.length else chars
  match String.ofList (rest.takeWhile (· ≠ ':')) with
  | "postgresql" | "postgres" => some "org.postgresql.Driver"
  | "mysql" => some "com.mysql.cj.jdbc.Driver"
  | "sqlserver" => some "com.microsoft.sqlserver.jdbc.SQLServerDriver"
  | "oracle" => some "oracle.jdbc.OracleDriver"
  | _ => none

end DataPipeline
