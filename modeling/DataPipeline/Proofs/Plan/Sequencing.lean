import DataPipeline.Plan.Dag
import DataPipeline.Proofs.Lists
import DataPipeline.Proofs.Plan.Chains
import DataPipeline.Proofs.Validation.WellDrawn

/-!
# From connections to next ids

What stands in the entries of a DAG: the next ids of an entry are the known ends of the connections
out of its id. In a well-drawn workflow there is an entry for every node, and the DAG has the
connections of the workflow.

## Main definitions

* `Dag.Follows`: one id is a next id of the entry of another

## Main results

* `Workflow.map_id_entries`, `Workflow.follows_dag`: the DAG has the ids and edges of the graph
* `Workflow.dagEntries_eq`, `Workflow.WellDrawn.follows_dag`: the DAG of a well-drawn workflow
* `Workflow.next_of_soleSuccessor`: a single connection gives a single next id
-/
namespace DataPipeline

/-- `b` is a next id of an entry of `a`. -/
def Dag.Follows (d : Dag) (a b : String) : Prop := ∃ e ∈ d.entries, e.id = a ∧ b ∈ e.next

namespace Workflow

variable {w : Workflow} {options : PlanOptions} {a b id : String} {n : Node}

/-! ## Next ids -/

theorem mem_next_iff : b ∈ w.next a ↔ w.Connects a b ∧ b ∈ w.ids := by
  simp only [next, mem_firstOfEach_id, List.mem_map, List.mem_filter, List.contains_iff_mem,
    Bool.and_eq_true, decide_eq_true_eq, List.not_mem_nil, not_false_eq_true, and_true]
  constructor
  · rintro ⟨c, ⟨hc, rfl, hb⟩, rfl⟩
    exact ⟨hc, hb⟩
  · rintro ⟨hab, hb⟩
    exact ⟨⟨a, b⟩, ⟨hab, rfl, hb⟩, rfl⟩

theorem nodup_next (w : Workflow) (id : String) : (w.next id).Nodup := by
  have h := nodup_firstOfEach (fun b : String => b) []
    ((w.connections.filter fun c => c.source = id && w.ids.contains c.target).map (·.target))
  rwa [List.map_id'] at h

theorem soleSuccessor_eq_some_iff :
    w.soleSuccessor id = some n ↔
      ∃ c, w.connections.filter (·.source = id) = [c] ∧ w.node c.target = some n := by
  rw [soleSuccessor]
  split
  · rename_i c hc
    simp [hc]
  · rename_i hnot
    constructor
    · intro h
      cases h
    · rintro ⟨c, hc, -⟩
      exact (hnot c hc).elim

/-- The only connection out of a node gives its only next id. -/
theorem next_of_soleSuccessor (h : w.soleSuccessor id = some n) : w.next id = [n.id] := by
  obtain ⟨c, hc, hn⟩ := soleSuccessor_eq_some_iff.1 h
  obtain ⟨hmem, hid⟩ := node_eq_some hn
  have htarget : c.target ∈ w.ids := hid ▸ mem_ids_of_mem hmem
  have hleft : (w.connections.filter fun c => c.source = id && w.ids.contains c.target) = [c] := by
    simp only [Bool.and_comm (decide _), ← List.filter_filter, hc]
    simp [htarget]
  rw [next, hleft, hid]
  rfl

/-! ## Entries -/

/-- There is an entry for each id, in the order in which the ids appear. -/
theorem map_id_entries (w : Workflow) (options : PlanOptions) :
    (w.dag options).entries.map (·.id) = w.ids.eraseDups := by
  rw [dag, dagEntries, List.map_map]
  exact map_firstOfEach _ w.nodes

/-- An entry is made from the node that its id finds. -/
theorem exists_node_of_entry {e : Dag.Entry} (he : e ∈ (w.dag options).entries) :
    ∃ n, w.node e.id = some n ∧ e = ⟨n.id, n.kind, n.configId, w.next n.id⟩ := by
  obtain ⟨n, hn, rfl⟩ := List.mem_map.1 he
  exact ⟨n, find?_of_mem_firstOfEach hn, rfl⟩

/-- The DAG has the edges of the graph: what leads to an unknown id is in neither, and what leads
from one has no entry. -/
theorem follows_dag (w : Workflow) (options : PlanOptions) :
    (w.dag options).Follows = w.graph.Adj := by
  funext a b
  refine propext ⟨?_, fun hab => ?_⟩
  · rintro ⟨e, he, rfl, hb⟩
    obtain ⟨n, hn, rfl⟩ := exists_node_of_entry he
    obtain ⟨hab, hb⟩ := mem_next_iff.1 hb
    exact adj_graph.2 ⟨hab, mem_ids_of_mem (node_eq_some hn).1, hb⟩
  · obtain ⟨hab, ha, hb⟩ := adj_graph.1 hab
    have hentry : a ∈ (w.dag options).entries.map (·.id) := by
      rwa [map_id_entries, List.mem_eraseDups]
    obtain ⟨e, he, rfl⟩ := List.mem_map.1 hentry
    obtain ⟨n, -, rfl⟩ := exists_node_of_entry he
    exact ⟨_, he, rfl, mem_next_iff.2 ⟨hab, hb⟩⟩

theorem dagEntries_eq (hw : w.ids.Nodup) :
    w.dagEntries = w.nodes.map fun n => ⟨n.id, n.kind, n.configId, w.next n.id⟩ := by
  rw [dagEntries, firstOfEach_eq_self hw (by simp)]

theorem map_id_dagEntries (hw : w.ids.Nodup) : w.dagEntries.map (·.id) = w.ids := by
  rw [dagEntries_eq hw, List.map_map]
  rfl

theorem entry_dag (hw : w.ids.Nodup) (hn : n ∈ w.nodes) :
    (w.dag options).entry n.id = some ⟨n.id, n.kind, n.configId, w.next n.id⟩ := by
  have hnode := node_of_mem hw hn
  rw [node] at hnode
  rw [Dag.entry, dag, dagEntries_eq hw, List.find?_map, Function.comp_def, hnode]
  rfl

/-- The entries of the nodes of a kind. -/
theorem filter_kind_dagEntries (hw : w.ids.Nodup) {k : Kind}
    (h : w.nodes.filter (·.kind = k) = [n]) :
    w.dagEntries.filter (·.kind = k) = [⟨n.id, n.kind, n.configId, w.next n.id⟩] := by
  rw [dagEntries_eq hw, List.filter_map, Function.comp_def, h]
  rfl

/-- Nothing dangles, so that no connection is left out. -/
theorem WellDrawn.follows_dag (h : w.WellDrawn) (options : PlanOptions) :
    (w.dag options).Follows = w.Connects := by
  rw [Workflow.follows_dag, adj_graph_of_joined h.joined]

end Workflow

end DataPipeline
