import DataPipeline.Proofs.Dict
import DataPipeline.Proofs.Graph.Reachability
import DataPipeline.Proofs.Plan.Sequencing

/-!
# The DAG and the graph

Both are made from the connections, the one by going through them for each id and the other by
leaving the dangling ones aside. They agree on every workflow, with repeated ids and repeated,
dangling or circular connections: the next ids of an entry are the successors of its id in the order
of the connections, and so the same ids can be reached.

## Main definitions

* `Dag.Mirrors`: the entries stand for the vertices of the graph and their next ids for its edges

## Main results

* `Workflow.next_eq_eraseDups`: next ids are successors
* `Workflow.mirrors_dag`: the DAG of a workflow mirrors its graph
-/
namespace DataPipeline

open Relation

/-- There is one entry for each id, in the order in which the ids first appear, made from the first
node with the id. Its next ids are the successors of the id, the oldest connection first and
repetitions left out. Following next ids from a known id leads to what can be reached from it. -/
structure Dag.Mirrors (d : Dag) (w : Workflow) : Prop where
  ids : d.entries.map (·.id) = w.ids.eraseDups
  first : ∀ e ∈ d.entries, ∃ n, w.node e.id = some n ∧ e.kind = n.kind ∧ e.configId = n.configId
  next : ∀ e ∈ d.entries, e.next = (w.graph.successors e.id).reverse.eraseDups
  closed : ∀ e ∈ d.entries, ∀ id ∈ e.next, id ∈ d.entries.map (·.id)
  reaches : ∀ a b, w.graph.reaches a b = true ↔ a ∈ w.ids ∧ ReflTransGen d.Follows a b
  reachable : ∀ a b, (w.graph.reachable a).contains b = true ↔ w.graph.reaches a b = true

namespace Workflow

variable {w : Workflow} {options : PlanOptions} {a b id : String}

/-! ## Next ids -/

/-- Of the connections out of a known id only those to unknown ids are no edges. -/
theorem filter_edges_graph (hid : id ∈ w.ids) :
    w.graph.edges.filter (·.source = id) =
      w.connections.filter fun c => c.source = id && w.ids.contains c.target := by
  rw [graph, Graph.ofParts, List.filter_filter]
  refine List.filter_congr fun c _ => ?_
  by_cases hc : c.source = id
  · simp [hc, hid]
  · simp [hc]

theorem next_eq_eraseDups (hid : id ∈ w.ids) :
    w.next id = (w.graph.successors id).reverse.eraseDups := by
  rw [Graph.successors, List.reverse_reverse, filter_edges_graph hid, next,
    firstOfEach_eq_eraseDups]
  simp

/-! ## Ways -/

theorem reaches_graph_iff :
    w.graph.reaches a b = true ↔ a ∈ w.ids ∧ ReflTransGen (w.dag options).Follows a b := by
  rw [(closed_graph w).reaches_iff, Graph.path_iff, follows_dag]
  rfl

theorem reachable_graph_iff :
    (w.graph.reachable a).contains b = true ↔ w.graph.reaches a b = true := by
  rw [Graph.reachable, Dict.contains_ofList_iff, Graph.mem_reached_iff,
    (closed_graph w).reaches_iff]

/-- Whatever a workflow looks like, its DAG mirrors its graph. -/
theorem mirrors_dag (w : Workflow) (options : PlanOptions) : (w.dag options).Mirrors w := by
  have hids := map_id_entries w options
  have hknown {e : Dag.Entry} (he : e ∈ (w.dag options).entries) : e.id ∈ w.ids := by
    rw [← List.mem_eraseDups, ← hids]
    exact List.mem_map_of_mem he
  refine ⟨hids, fun e he => ?_, fun e he => ?_, fun e he id hid => ?_,
    fun a b => reaches_graph_iff, fun a b => reachable_graph_iff⟩
  · obtain ⟨n, hn, rfl⟩ := exists_node_of_entry he
    exact ⟨n, hn, rfl, rfl⟩
  · have hnext := next_eq_eraseDups (hknown he)
    obtain ⟨n, -, rfl⟩ := exists_node_of_entry he
    exact hnext
  · obtain ⟨n, -, rfl⟩ := exists_node_of_entry he
    rw [hids, List.mem_eraseDups]
    exact (mem_next_iff.1 hid).2

/-- A workflow with a repeated id, repeated and dangling connections and a loop. -/
def snarl : Workflow where
  nodes := [
    { id := "read", settings := .readFile {}, configId := some "r1" },
    { id := "copy", settings := .copyFile {} },
    { id := "read", settings := .deleteFile {}, configId := some "r2" },
    { id := "drop", settings := .deleteFile {} }]
  connections := [⟨"read", "copy"⟩, ⟨"read", "read"⟩, ⟨"nowhere", "drop"⟩, ⟨"read", "copy"⟩,
    ⟨"copy", "nowhere"⟩, ⟨"copy", "drop"⟩]

theorem mirrors_dag_snarl :
    (snarl.dag {}).Mirrors snarl ∧
      (snarl.dag {}).entries = [⟨"read", .readFile, some "r1", ["copy", "read"]⟩,
        ⟨"copy", .copyFile, none, ["drop"]⟩, ⟨"drop", .deleteFile, none, []⟩] ∧
      snarl.graph.successors "read" = ["copy", "read", "copy"] ∧
      ReflTransGen (snarl.dag {}).Follows "read" "drop" ∧
      ¬ ReflTransGen (snarl.dag {}).Follows "drop" "copy" := by
  have h := mirrors_dag snarl {}
  refine ⟨h, by decide, by decide, ?_, fun hback => ?_⟩
  · exact ((h.reaches "read" "drop").1 (by decide)).2
  · exact absurd ((h.reaches "drop" "copy").2 ⟨by decide, hback⟩) (by decide)

end Workflow

end DataPipeline
