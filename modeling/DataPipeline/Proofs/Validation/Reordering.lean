import DataPipeline.Proofs.Validation.WellDrawn
import Mathlib.Data.List.Perm.Basic

/-!
# Validation without an order

The faults of a workflow depend on the order in which it was drawn only as far as they are listed in
it. This holds for all workflows, those with repeated ids included: a repetition is blamed on the
later item, but the fault does not say which one that is.

## Main definitions

* `Workflow.Reordered`: the same nodes and connections in another order

## Main results

* `repeated_perm`: the repetitions in a reordered list
* `Workflow.Reordered.faults`: the same faults in another order
-/
namespace DataPipeline

/-! ## Repetitions -/

section Repeated

variable {α : Type} [DecidableEq α] {seen as bs : List α}

/-- Of each item all occurrences but one are repetitions, and all if it was seen before. -/
theorem count_repeated (a : α) :
    (repeated seen as).count a = as.count a - if a ∈ seen then 0 else 1 := by
  induction as generalizing seen with
  | nil => simp [repeated]
  | cons b as ih =>
    by_cases hb : b ∈ seen
    · rw [repeated, if_pos hb, List.count_cons, List.count_cons, ih]
      by_cases hab : b = a
      · subst hab
        simp [hb]
      · simp [hab]
    · rw [repeated, if_neg hb, List.count_cons, ih]
      by_cases hab : b = a
      · subst hab
        simp [hb]
      · simp [hab, Ne.symm hab]

theorem repeated_perm (h : as.Perm bs) : (repeated seen as).Perm (repeated seen bs) := by
  refine List.perm_iff_count.2 fun a => ?_
  rw [count_repeated, count_repeated, h.count_eq]

end Repeated

namespace Workflow

variable {w w' : Workflow} {a b : String}

/-- The same nodes and the same connections, each in an order of their own. -/
structure Reordered (w w' : Workflow) : Prop where
  nodes : w.nodes.Perm w'.nodes
  connections : w.connections.Perm w'.connections

namespace Reordered

theorem ids (h : w.Reordered w') : w.ids.Perm w'.ids := h.nodes.map _

/-! ## The graph -/

theorem contains (h : w.Reordered w') (id : String) : w.ids.contains id = w'.ids.contains id :=
  h.ids.contains_eq

theorem edges (h : w.Reordered w') : w.graph.edges.Perm w'.graph.edges := by
  simp only [graph, Graph.ofParts, h.contains]
  exact h.connections.filter _

theorem dangling (h : w.Reordered w') : w.graph.dangling.Perm w'.graph.dangling := by
  simp only [graph, Graph.ofParts, h.contains]
  exact h.connections.filter _

theorem adj (h : w.Reordered w') : w.graph.Adj = w'.graph.Adj := by
  funext a b
  exact propext h.edges.mem_iff

theorem path_iff (h : w.Reordered w') : w.graph.Path a b ↔ w'.graph.Path a b := by
  rw [Graph.path_iff, Graph.path_iff, h.adj]
  exact and_congr_left fun _ => h.ids.mem_iff

theorem reached (h : w.Reordered w') :
    (w.graph.reached a).contains b = (w'.graph.reached a).contains b := by
  rw [Bool.eq_iff_iff, List.contains_iff_mem, List.contains_iff_mem, Graph.mem_reached_iff,
    Graph.mem_reached_iff, h.path_iff]

theorem incoming (h : w.Reordered w') (id : String) :
    w.graph.incoming id = w'.graph.incoming id := by
  simp only [Graph.incoming, Graph.predecessors, List.length_reverse, List.length_map]
  exact (h.edges.filter _).length_eq

theorem outgoing (h : w.Reordered w') (id : String) :
    w.graph.outgoing id = w'.graph.outgoing id := by
  simp only [Graph.outgoing, Graph.successors, List.length_reverse, List.length_map]
  exact (h.edges.filter _).length_eq

/-! ## The rules -/

theorem terminalCounts (h : w.Reordered w') : w.terminalCounts = w'.terminalCounts := by
  have hcount (k : Kind) : w.countKind k = w'.countKind k := h.nodes.countP_eq _
  simp only [Workflow.terminalCounts, hcount]

theorem terminalDegrees (h : w.Reordered w') : w.terminalDegrees.Perm w'.terminalDegrees := by
  simp only [Workflow.terminalDegrees, h.incoming, h.outgoing]
  exact h.nodes.filterMap _

theorem orphans (h : w.Reordered w') : w.orphans.Perm w'.orphans := by
  simp only [Workflow.orphans, h.incoming, h.outgoing]
  exact (h.nodes.filter _).flatMap_right _

/-- There is one start node in both or in neither. -/
theorem islands (h : w.Reordered w') : w.islands.Perm w'.islands := by
  have hstarts := h.nodes.filter (·.kind = .start)
  have hlength := hstarts.length_eq
  rcases hs : w.nodes.filter (·.kind = .start) with _ | ⟨s, _ | ⟨t, rest⟩⟩
  · simp only [hs, List.length_nil] at hlength
    have hs' := List.length_eq_zero_iff.1 hlength.symm
    simp [Workflow.islands, hs, hs']
  · rw [hs] at hstarts
    have hs' := List.perm_singleton.1 hstarts.symm
    simp only [Workflow.islands, hs, hs', h.incoming, h.reached]
    exact (h.nodes.filter _).map _
  · simp only [hs, List.length_cons] at hlength
    rcases hs' : w'.nodes.filter (·.kind = .start) with _ | ⟨s', _ | ⟨t', rest'⟩⟩
    · simp [hs'] at hlength
    · simp [hs'] at hlength
    · simp [Workflow.islands, hs, hs']

theorem unknownEndpoints (h : w.Reordered w') : w.unknownEndpoints.Perm w'.unknownEndpoints := by
  simp only [Workflow.unknownEndpoints, contains_graph, h.contains]
  exact h.dangling.flatMap_right _

theorem selfLoops (h : w.Reordered w') : w.selfLoops.Perm w'.selfLoops :=
  (h.connections.filter _).map _

theorem repeatedConnections (h : w.Reordered w') :
    w.repeatedConnections.Perm w'.repeatedConnections :=
  (repeated_perm h.connections).map _

theorem cycles (h : w.Reordered w') : w.cycles = w'.cycles := by
  have hcycle : w.graph.hasCycle = w'.graph.hasCycle := by
    rw [Bool.eq_iff_iff, (closed_graph w).hasCycle_iff, (closed_graph w').hasCycle_iff,
      (closed_graph w).cyclic_iff, (closed_graph w').cyclic_iff, h.adj]
  rw [Workflow.cycles, Workflow.cycles, hcycle]

theorem repeatedIds (h : w.Reordered w') : w.repeatedIds.Perm w'.repeatedIds :=
  (repeated_perm h.ids).map _

/-! ## All faults -/

theorem structuralFaults (h : w.Reordered w') : w.structuralFaults.Perm w'.structuralFaults := by
  rw [Workflow.structuralFaults, Workflow.structuralFaults, h.terminalCounts, h.cycles]
  have terminals := h.terminalDegrees.append_left w'.terminalCounts
  have degrees := (terminals.append h.orphans).append h.islands
  have connections := ((degrees.append h.unknownEndpoints).append h.selfLoops).append
    h.repeatedConnections
  exact (connections.append_right w'.cycles).append h.repeatedIds

theorem faults (h : w.Reordered w') : w.faults.Perm w'.faults :=
  h.structuralFaults.append (h.nodes.flatMap_right _)

end Reordered

end Workflow

end DataPipeline
