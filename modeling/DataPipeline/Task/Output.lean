import DataPipeline.Task.Input

/-!
# Outputs of conversions

The half of a file conversion that says where the records go.

## Main definitions

* `ConversionOutput`, `ConversionOutput.codec`
* `Node.conversionOutput`: the output that a sink stands for; other nodes have none
-/
namespace DataPipeline

structure ConversionOutput where
  provider : String
  format : String
  path : String
  mode : String
  options : Dict Json

namespace ConversionOutput

def layout : Layout ConversionOutput ConversionOutput :=
  Layout.make mk
    |>.field (.required "provider" .text (·.provider))
    |>.field (.required "format" .text (·.format))
    |>.field (.required "path" .text (·.path))
    |>.field (.required "mode" .text (·.mode))
    |>.field (.required "options" .dict (·.options))

def codec : Codec ConversionOutput := .record "OutputConfig" layout

end ConversionOutput

def WriteFileSettings.output (nodeId : String) (s : WriteFileSettings) :
    Except MapError ConversionOutput := do
  let path ← required nodeId "path" s.path
  let format ← chooseFormat nodeId s.format path
  let mode ← chooseMode nodeId s.mode "overwrite"
  return {
    provider := chooseProvider s.provider path
    format := format
    path := path
    mode := mode
    options := withDefaults s.options (outputDefaults format) }

def InlineOutputSettings.output (nodeId : String) (s : InlineOutputSettings) :
    Except MapError ConversionOutput := do
  let format ← inlineFormat nodeId s.format
  let mode ← chooseMode nodeId s.mode "overwrite"
  return {
    provider := (Text.content s.provider).getD "local"
    format := format
    path := inlineLocation nodeId s.path
    mode := mode
    options := withDefaults s.options (outputDefaults format) }

def DatabaseSettings.output (nodeId : String) (s : DatabaseSettings) :
    Except MapError ConversionOutput := do
  let url ← databaseAddress nodeId s
  let table ← required nodeId "table" s.table
  let mode ← chooseMode nodeId s.mode "append"
  return {
    provider := "jdbc"
    format := "jdbc"
    path := table
    mode := mode
    options := (connectionOptions url s).insert "dbtable" (.str table) }

/-- The output that a sink stands for. -/
def Node.conversionOutput (n : Node) : Except MapError (Option ConversionOutput) :=
  match n.settings with
  | .writeFile s => some <$> s.output n.id
  | .inlineOutput s => some <$> s.output n.id
  | .database s => if s.access = .write then some <$> s.output n.id else .ok none
  | _ => .ok none

end DataPipeline
