import DataPipeline.Diagnostic

/-!
# Settings that give no task

Why the settings of a node cannot be turned into a task for the engine.

## Main definitions

* `MapError`, with `MapError.code`, `MapError.message` and `MapError.nodeId`
* `MapError.diagnostic`: the error as a diagnostic
-/
namespace DataPipeline

inductive MapError where
  | missingField (nodeId field : String)
  | outOfBounds (nodeId field : String) (min max value : Int)
  | invalidValue (nodeId field value reason : String)
deriving DecidableEq

namespace MapError

def code : MapError → String
  | missingField _ _ => "M001"
  | outOfBounds _ _ _ _ _ => "M002"
  | invalidValue _ _ _ _ => "M003"

def nodeId : MapError → String
  | missingField id _ | outOfBounds id _ _ _ _ | invalidValue id _ _ _ => id

def message : MapError → String
  | missingField id f => "Node '" ++ id ++ "' is missing required field '" ++ f ++ "'"
  | outOfBounds id f min max value =>
    "Node '" ++ id ++ "' field '" ++ f ++ "' must be between " ++ toString min ++ " and " ++
      toString max ++ ", got " ++ toString value
  | invalidValue id f value reason =>
    "Node '" ++ id ++ "' field '" ++ f ++ "' has invalid value '" ++ value ++ "': " ++ reason

def diagnostic (e : MapError) : Diagnostic := ⟨e.code, .map, e.message, some e.nodeId⟩

end MapError

end DataPipeline
