import DataPipeline.Workflow.Basic

/-!
# Chains

A chain leads records from a source to a sink, directly or through one filter. A source or filter
with more than one connection out of it is ambiguous and starts or continues no chain.

## Main definitions

* `Chain`, `Chain.codec`
* `Workflow.soleSuccessor`: the node that the only connection out of a node leads to
* `Workflow.chains`: all chains, in the order of their sources
-/
namespace DataPipeline

/-- A source and a sink, with the filter between them if there is one. -/
structure Chain where
  read : String
  write : String
  filter : Option String
deriving DecidableEq

namespace Chain

def layout : Layout Chain Chain :=
  Layout.make mk
    |>.field (.required "readNode" .text (·.read))
    |>.field (.required "writeNode" .text (·.write))
    |>.field (.optional "filterNode" .text (·.filter))

def codec : Codec Chain := .record "Sequence" layout

/-- The ids of the nodes that take part. -/
def members (c : Chain) : List String := [c.read, c.write] ++ c.filter.toList

end Chain

namespace Workflow

/-- The node behind the only connection out of `id`, if there is one connection and it leads to a
node. -/
def soleSuccessor (w : Workflow) (id : String) : Option Node :=
  match w.connections.filter (·.source = id) with
  | [c] => w.node c.target
  | _ => none

/-- The chain that starts at a source. -/
def chainFrom (w : Workflow) (source : Node) : Option Chain := do
  let next ← w.soleSuccessor source.id
  if next.isSink then return ⟨source.id, next.id, none⟩
  guard next.isFilter
  let sink ← w.soleSuccessor next.id
  guard sink.isSink
  return ⟨source.id, sink.id, some next.id⟩

def chains (w : Workflow) : List Chain := (w.nodes.filter (·.isSource)).filterMap w.chainFrom

end Workflow

end DataPipeline
