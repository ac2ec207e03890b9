import DataPipeline.Diagnostic
import DataPipeline.Workflow.Basic

/-!
# Faults of workflows

What can be wrong with a workflow that was read without trouble. Faults do not keep a workflow from
being shown or edited, only from being compiled.

## Main definitions

* `Fault`: the faults, with `Fault.code`, `Fault.message` and `Fault.nodeId`
* `Fault.diagnostic`: a fault as a diagnostic
-/
namespace DataPipeline

inductive Fault where
  | terminalCount (kind : Kind) (count : Nat)
  | startEntered (id : String)
  | endLeft (id : String)
  | noIncoming (id label : String)
  | noOutgoing (id label : String)
  | unreachable (id label : String)
  | unknownEndpoint (connection : Connection) (id : String)
  | selfLoop (id : String)
  | repeatedConnection (connection : Connection)
  | cyclic
  | repeatedId (id : String)
  | missingField (kind : Kind) (id label field : String)
deriving DecidableEq

namespace Fault

def code : Fault → String
  | terminalCount _ _ => "V001"
  | startEntered _ | endLeft _ => "V002"
  | noIncoming _ _ | noOutgoing _ _ => "V003"
  | unreachable _ _ => "V004"
  | unknownEndpoint _ _ => "V005"
  | selfLoop _ => "V006"
  | repeatedConnection _ => "V007"
  | cyclic => "V008"
  | missingField _ _ _ _ => "V009"
  | repeatedId _ => "V010"

def message : Fault → String
  | terminalCount kind count =>
    "Workflow must have exactly 1 " ++ kind.name ++ " node, found " ++ toString count
  | startEntered _ => "Start node must not have incoming connections"
  | endLeft _ => "End node must not have outgoing connections"
  | noIncoming _ label => "Node '" ++ label ++ "' has no incoming connection"
  | noOutgoing _ label => "Node '" ++ label ++ "' has no outgoing connection"
  | unreachable _ label => "Node '" ++ label ++ "' is not reachable from the start node"
  | unknownEndpoint c id =>
    "Connection '" ++ c.source ++ "' -> '" ++ c.target ++ "' references unknown node '" ++ id ++ "'"
  | selfLoop id => "Node '" ++ id ++ "' is connected to itself"
  | repeatedConnection c =>
    "Duplicate connection from '" ++ c.source ++ "' to '" ++ c.target ++ "'"
  | cyclic => "Workflow contains a cycle"
  | repeatedId id => "Node id '" ++ id ++ "' is used more than once"
  | missingField kind _ label field =>
    kind.title ++ " node '" ++ label ++ "' is missing required field '" ++ field ++ "'"

def nodeId : Fault → Option String
  | terminalCount _ _ | unknownEndpoint _ _ | cyclic => none
  | startEntered id | endLeft id | noIncoming id _ | noOutgoing id _ | unreachable id _ => some id
  | selfLoop id | repeatedId id | missingField _ id _ _ => some id
  | repeatedConnection c => some c.source

def diagnostic (f : Fault) : Diagnostic := ⟨f.code, .validate, f.message, f.nodeId⟩

end Fault

end DataPipeline
