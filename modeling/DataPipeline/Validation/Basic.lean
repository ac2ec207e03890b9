import DataPipeline.Graph.Reachability
import DataPipeline.Validation.Node

/-!
# Validation

The faults of a workflow: those of its structure, rule by rule, and then those of its nodes. A
workflow can be compiled only if there are none.

## Main definitions

* `Workflow.structuralFaults`, `Workflow.faults`: all faults, in the order in which they are shown
* `Report`, `Workflow.validate`: the faults as a document
-/
namespace DataPipeline

/-- The items that occur earlier in the list, in order. -/
def repeated {α : Type} [DecidableEq α] (seen : List α) : List α → List α
  | [] => []
  | a :: as => if a ∈ seen then a :: repeated seen as else repeated (a :: seen) as

namespace Workflow

/-! ## Structure -/

def countKind (w : Workflow) (kind : Kind) : Nat := w.nodes.countP (·.kind = kind)

/-- There is one start node and one end node. -/
def terminalCounts (w : Workflow) : List Fault :=
  ([.start, .finish] : List Kind).filterMap fun kind =>
    if w.countKind kind = 1 then none else some (.terminalCount kind (w.countKind kind))

/-- Nothing leads into a start node or out of an end node. -/
def terminalDegrees (w : Workflow) : List Fault :=
  let g := w.graph
  w.nodes.filterMap fun n =>
    if n.kind = .start ∧ 0 < g.incoming n.id then some (.startEntered n.id)
    else if n.kind = .finish ∧ 0 < g.outgoing n.id then some (.endLeft n.id)
    else none

/-- Something leads into every other node and out of it. -/
def orphans (w : Workflow) : List Fault :=
  let g := w.graph
  (w.nodes.filter (!·.kind.isTerminal)).flatMap fun n =>
    (if g.incoming n.id = 0 then [.noIncoming n.id n.label] else []) ++
      (if g.outgoing n.id = 0 then [.noOutgoing n.id n.label] else [])

/-- Nodes that something leads into can be reached from the start node, if there is exactly one. -/
def islands (w : Workflow) : List Fault :=
  match w.nodes.filter (·.kind = .start) with
  | [start] =>
    let g := w.graph
    let reached := g.reached start.id
    (w.nodes.filter fun n =>
      n.kind ≠ .start ∧ g.incoming n.id ≠ 0 ∧ !reached.contains n.id).map
        fun n => .unreachable n.id n.label
  | _ => []

/-- Connections join nodes that exist. -/
def unknownEndpoints (w : Workflow) : List Fault :=
  let g := w.graph
  g.dangling.flatMap fun c =>
    ([c.source, c.target].filter (!g.contains ·)).map (.unknownEndpoint c ·)

def selfLoops (w : Workflow) : List Fault :=
  (w.connections.filter fun c => c.source = c.target).map (.selfLoop ·.source)

def repeatedConnections (w : Workflow) : List Fault :=
  (repeated [] w.connections).map .repeatedConnection

def cycles (w : Workflow) : List Fault := if w.graph.hasCycle then [.cyclic] else []

def repeatedIds (w : Workflow) : List Fault := (repeated [] w.ids).map .repeatedId

def structuralFaults (w : Workflow) : List Fault :=
  w.terminalCounts ++ w.terminalDegrees ++ w.orphans ++ w.islands ++ w.unknownEndpoints ++
    w.selfLoops ++ w.repeatedConnections ++ w.cycles ++ w.repeatedIds

/-- All faults, those of the structure first. -/
def faults (w : Workflow) : List Fault := w.structuralFaults ++ w.nodes.flatMap Node.faults

end Workflow

/-! ## Reports -/

/-- The outcome of a validation. -/
structure Report where
  errors : List Diagnostic

namespace Report

def isValid (r : Report) : Bool := r.errors.isEmpty

def toJson (r : Report) : Json :=
  .obj [("isValid", .bool r.isValid), ("errors", .arr (r.errors.map Diagnostic.codec.toJson))]

end Report

def Workflow.validate (w : Workflow) : Report := ⟨w.faults.map Fault.diagnostic⟩

end DataPipeline
