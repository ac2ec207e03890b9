import DataPipeline.Codec.Choice
import DataPipeline.Codec.Record

/-!
# Diagnostics

What the user is told about a document, an edit or a workflow. The causes are types of their own
where they arise; all of them end up as a diagnostic with a code, a phase and a text.

## Main definitions

* `Phase`, `Diagnostic`, `Diagnostic.codec`
* `Diagnostic.line`: a diagnostic on one line
-/
namespace DataPipeline

/-- The stage of the work in which a diagnostic arises. -/
inductive Phase where
  | parse
  | edit
  | validate
  | map
  | lower
deriving DecidableEq

namespace Phase

def all : List Phase := [parse, edit, validate, map, lower]

def name : Phase → String
  | parse => "Parse"
  | edit => "Edit"
  | validate => "Validate"
  | map => "Map"
  | lower => "Lower"

def codec : Codec Phase := .choice (all.map fun p => (p.name, p)) name

end Phase

structure Diagnostic where
  code : String
  phase : Phase
  message : String
  /-- The node that the diagnostic is about. -/
  nodeId : Option String
deriving DecidableEq

namespace Diagnostic

def layout : Layout Diagnostic Diagnostic :=
  Layout.make mk
    |>.field (.required "code" .text (·.code))
    |>.field (.required "phase" Phase.codec (·.phase))
    |>.field (.required "message" .text (·.message))
    |>.field (.nullable "node_id" .text (·.nodeId))

def codec : Codec Diagnostic := .record "CompilerError" layout

def line (d : Diagnostic) : String :=
  "[" ++ d.phase.name ++ ":" ++ d.code ++ "] " ++ d.message ++
    match d.nodeId with
    | some id => " (node '" ++ id ++ "')"
    | none => ""

end Diagnostic

end DataPipeline
