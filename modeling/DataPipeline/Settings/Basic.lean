import DataPipeline.Json.Equality
import DataPipeline.Kind
import DataPipeline.Settings.Control
import DataPipeline.Settings.Database
import DataPipeline.Settings.File
import DataPipeline.Settings.Filter
import DataPipeline.Settings.Inline
import DataPipeline.Settings.Salesforce
import DataPipeline.Text.Basic

/-!
# Settings of nodes

One record of settings for each kind of node. Every field may be absent, so that a half-edited node
can still be read; what a node needs is a matter of validation.

## Main definitions

* `Settings`: the settings, and with them the kind, of a node
* `Settings.ofJson`, `Settings.toJson`: as documents; the latter have sorted keys throughout
* `Settings.label`, `Settings.producedPath`, `Settings.sourceColumns`: views across the kinds
-/
namespace DataPipeline

open Json (ShapeError)

inductive Settings where
  | start (s : TerminalSettings)
  | finish (s : TerminalSettings)
  | readFile (s : ReadFileSettings)
  | writeFile (s : WriteFileSettings)
  | copyFile (s : FileOperationSettings)
  | renameFile (s : FileOperationSettings)
  | deleteFile (s : FileOperationSettings)
  | inlineInput (s : InlineInputSettings)
  | inlineOutput (s : InlineOutputSettings)
  | database (s : DatabaseSettings)
  | salesforceRead (s : SalesforceReadSettings)
  | salesforceWrite (s : SalesforceWriteSettings)
  | filter (s : FilterSettings)
  | scheduler (s : SchedulerSettings)
  | code (s : FileOperationSettings)

namespace Settings

def kind : Settings → Kind
  | start _ => .start
  | finish _ => .finish
  | readFile _ => .readFile
  | writeFile _ => .writeFile
  | copyFile _ => .copyFile
  | renameFile _ => .renameFile
  | deleteFile _ => .deleteFile
  | inlineInput _ => .inlineInput
  | inlineOutput _ => .inlineOutput
  | database _ => .database
  | salesforceRead _ => .salesforceRead
  | salesforceWrite _ => .salesforceWrite
  | filter _ => .filter
  | scheduler _ => .scheduler
  | code _ => .code

/-! ## Documents -/

/-- The settings of a kind that a document stands for. -/
def ofDocument (k : Kind) (j : Json) : Except ShapeError Settings :=
  match k with
  | .start => start <$> TerminalSettings.codec.ofJson j
  | .finish => finish <$> TerminalSettings.codec.ofJson j
  | .readFile => readFile <$> ReadFileSettings.codec.ofJson j
  | .writeFile => writeFile <$> WriteFileSettings.codec.ofJson j
  | .copyFile => copyFile <$> FileOperationSettings.codec.ofJson j
  | .renameFile => renameFile <$> FileOperationSettings.codec.ofJson j
  | .deleteFile => deleteFile <$> FileOperationSettings.codec.ofJson j
  | .inlineInput => inlineInput <$> InlineInputSettings.codec.ofJson j
  | .inlineOutput => inlineOutput <$> InlineOutputSettings.codec.ofJson j
  | .database => database <$> DatabaseSettings.codec.ofJson j
  | .salesforceRead => salesforceRead <$> SalesforceReadSettings.codec.ofJson j
  | .salesforceWrite => salesforceWrite <$> SalesforceWriteSettings.codec.ofJson j
  | .filter => filter <$> FilterSettings.codec.ofJson j
  | .scheduler => scheduler <$> SchedulerSettings.codec.ofJson j
  | .code => code <$> FileOperationSettings.codec.ofJson j

/-- The settings of a kind that a document stands for; `null` stands for empty settings. -/
def ofJson (k : Kind) (j : Json) : Except ShapeError Settings :=
  ofDocument k (if j = .null then .obj [] else j)

/-- The settings with their keys in declared order. -/
def toDocument : Settings → Json
  | start s | finish s => TerminalSettings.codec.toJson s
  | readFile s => ReadFileSettings.codec.toJson s
  | writeFile s => WriteFileSettings.codec.toJson s
  | copyFile s | renameFile s | deleteFile s | code s => FileOperationSettings.codec.toJson s
  | inlineInput s => InlineInputSettings.codec.toJson s
  | inlineOutput s => InlineOutputSettings.codec.toJson s
  | database s => DatabaseSettings.codec.toJson s
  | salesforceRead s => SalesforceReadSettings.codec.toJson s
  | salesforceWrite s => SalesforceWriteSettings.codec.toJson s
  | filter s => FilterSettings.codec.toJson s
  | scheduler s => SchedulerSettings.codec.toJson s

def toJson (s : Settings) : Json := s.toDocument.sorted

/-! ## Views -/

/-- The label field, blank or not. -/
def labelField : Settings → Option String
  | start s | finish s => s.label
  | readFile s => s.label
  | writeFile s => s.label
  | copyFile s | renameFile s | deleteFile s | code s => s.label
  | inlineInput s => s.label
  | inlineOutput s => s.label
  | database s => s.label
  | salesforceRead s => s.label
  | salesforceWrite s => s.label
  | filter s => s.label
  | scheduler s => s.label

/-- The label, if there is one that is not blank. -/
def label (s : Settings) : Option String := s.labelField.filter (!Text.isBlank ·)

/-- The path of the file that a node leaves behind, if it names one that is not blank. -/
def producedPath (s : Settings) : Option String :=
  let path := match s with
    | readFile s => s.path
    | writeFile s => s.path
    | inlineOutput s => s.path
    | salesforceRead s => s.filePath
    | copyFile s | renameFile s | code s => s.destinationPath
    | _ => none
  path.filter (!Text.isBlank ·)

/-- The columns that a source declares. -/
def sourceColumns : Settings → List Column
  | readFile s => s.columns
  | inlineInput s => s.columns
  | database s => if s.access = .read then s.columns else []
  | _ => []

/-- Nodes that records come from. -/
def isSource : Settings → Bool
  | readFile _ | inlineInput _ => true
  | database s => s.access = .read
  | _ => false

/-- Nodes that records go to. -/
def isSink : Settings → Bool
  | writeFile _ | inlineOutput _ => true
  | database s => s.access = .write
  | _ => false

def isFilter : Settings → Bool
  | filter _ => true
  | _ => false

end Settings

end DataPipeline
