import DataPipeline.Task.Basic

/-!
# Previews

What a node maps to on its own, as the editor shows it while the node is being filled in: the task
of the node, or else the part of a conversion that the node stands for.

## Main definitions

* `Preview`, `Node.preview`
-/
namespace DataPipeline

inductive Preview where
  | task (t : Task)
  | input (t : ConversionInput)
  | output (t : ConversionOutput)
  | clauses (t : Clauses)
  | unsupported

namespace Preview

def toJson : Preview → Json
  | task t =>
    .obj [("status", .str "config"), ("config_kind", .str t.kind.name), ("config", t.toJson)]
  | input t => .obj [("status", .str "input"), ("config", ConversionInput.codec.toJson t)]
  | output t => .obj [("status", .str "output"), ("config", ConversionOutput.codec.toJson t)]
  | clauses t => .obj [("status", .str "transformations"), ("clauses", Clauses.codec.toJson t)]
  | unsupported => .obj [("status", .str "unsupported")]

end Preview

/-- The preview of a node. -/
def Node.preview (n : Node) (options : PlanOptions) : Except MapError Preview := do
  if let some t ← n.task options options.dagId then return .task t
  if let some t ← n.conversionInput then return .input t
  if let some t ← n.conversionOutput then return .output t
  let clauses ← n.clauses
  return if clauses.isEmpty then .unsupported else .clauses clauses

end DataPipeline
