import DataPipeline.Proofs.Plan.Mirroring
import DataPipeline.Proofs.Workflow.Connecting

/-!
# What the graph shows

The graph of a workflow shows its connections as they are. Those with an end that does not exist are
set aside, the others make the neighbours of an id, the newest one first, and lead wherever a chain
of them leads. Nothing is asked of the workflow: ids and connections may repeat, and a connection
may be a loop or lead nowhere.

## Main definitions

* `Graph.Depicts`: what a graph says about the connections of a workflow

## Main results

* `Workflow.reaches_graph_iff_joins`, `Workflow.hasCycle_graph_iff_joins`: the searches find the
  chains of connections between nodes that exist
* `Workflow.depicts_graph`: the graph of a workflow depicts it
-/
namespace DataPipeline

open Relation

/-- The graph says of the connections which ones dangle, what the others lead to and come from, and
where chains of them lead. -/
structure Graph.Depicts (g : Graph) (w : Workflow) : Prop where
  dangling : g.dangling = w.connections.filter fun c => c.source ∉ w.ids ∨ c.target ∉ w.ids
  successors : ∀ a, g.successors a = (w.connections.reverse.filter fun c =>
    c.source = a ∧ c.source ∈ w.ids ∧ c.target ∈ w.ids).map (·.target)
  predecessors : ∀ a, g.predecessors a = (w.connections.reverse.filter fun c =>
    c.target = a ∧ c.source ∈ w.ids ∧ c.target ∈ w.ids).map (·.source)
  /-- A chain may be empty. -/
  reaches : ∀ a b, g.reaches a b = true ↔ a ∈ w.ids ∧ b ∈ w.ids ∧ ReflTransGen w.Joins a b
  reachable : ∀ a b, (g.reachable a).contains b = true ↔
    a ∈ w.ids ∧ b ∈ w.ids ∧ ReflTransGen w.Joins a b
  /-- A cycle is a chain that is not empty. -/
  hasCycle : g.hasCycle = true ↔ ∃ a ∈ w.ids, TransGen w.Joins a a

namespace Workflow

variable {w : Workflow} {a b : String}

/-! ## Neighbours -/

theorem edges_graph (w : Workflow) :
    w.graph.edges = w.connections.filter fun c => c.source ∈ w.ids ∧ c.target ∈ w.ids := by
  simp [graph, Graph.ofParts]

theorem dangling_graph (w : Workflow) : w.graph.dangling =
    w.connections.filter fun c => c.source ∉ w.ids ∨ c.target ∉ w.ids := by
  rw [graph, Graph.ofParts]
  refine List.filter_congr fun c _ => ?_
  simp [Bool.decide_or]

/-- Picking connections and turning them around can change places. -/
theorem reverse_map_filter_graph (p : Connection → Prop) [DecidablePred p]
    (other : Connection → String) :
    ((w.graph.edges.filter (p ·)).map other).reverse =
      (w.connections.reverse.filter fun c => p c ∧ c.source ∈ w.ids ∧ c.target ∈ w.ids).map
        other := by
  rw [edges_graph, List.filter_filter, ← List.map_reverse, ← List.filter_reverse]
  simp

/-! ## Chains -/

theorem reaches_graph_iff_joins :
    w.graph.reaches a b = true ↔ a ∈ w.ids ∧ b ∈ w.ids ∧ ReflTransGen w.Joins a b := by
  rw [(closed_graph w).reaches_iff]
  constructor
  · intro p
    obtain ⟨ha, hab⟩ := path_graph_iff.1 p
    exact ⟨ha, p.target_mem (closed_graph w), hab⟩
  · rintro ⟨ha, -, hab⟩
    exact path_graph_iff.2 ⟨ha, hab⟩

theorem hasCycle_graph_iff_joins :
    w.graph.hasCycle = true ↔ ∃ a ∈ w.ids, TransGen w.Joins a a := by
  rw [(closed_graph w).hasCycle_iff, (closed_graph w).cyclic_iff, adj_graph_eq_joins]
  constructor
  · rintro ⟨a, hback⟩
    -- A chain that is not empty begins with a connection between nodes that exist.
    obtain ⟨b, hab, -⟩ := TransGen.head'_iff.1 hback
    exact ⟨a, hab.2.1, hback⟩
  · rintro ⟨a, -, hback⟩
    exact ⟨a, hback⟩

/-- The graph of a workflow depicts it, however it is drawn. -/
theorem depicts_graph (w : Workflow) : w.graph.Depicts w where
  dangling := dangling_graph w
  successors a := reverse_map_filter_graph (·.source = a) (·.target)
  predecessors a := reverse_map_filter_graph (·.target = a) (·.source)
  reaches _ _ := reaches_graph_iff_joins
  reachable _ _ := reachable_graph_iff.trans reaches_graph_iff_joins
  hasCycle := hasCycle_graph_iff_joins

example : snarl.graph.dangling = [⟨"nowhere", "drop"⟩, ⟨"copy", "nowhere"⟩] := by decide

end Workflow

end DataPipeline
