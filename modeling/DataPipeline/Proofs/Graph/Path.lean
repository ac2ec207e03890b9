import DataPipeline.Graph.Basic
import Mathlib.Logic.Relation

/-!
# Chains of edges

`Graph.Path` against the reflexive transitive closure of a single edge, and the edges of a workflow
against its connections.

## Main definitions

* `Graph.Adj`: one edge leads from a vertex to another
* `Graph.Closed`: the edges join vertices of the graph

## Main results

* `Graph.path_iff`, `Graph.Closed.cyclic_iff`: chains and cycles as closures of `Graph.Adj`
-/
namespace DataPipeline

open Relation

namespace Graph

variable {g g' : Graph} {a b c : String}

/-- One edge leads from `a` to `b`. -/
def Adj (g : Graph) (a b : String) : Prop := (⟨a, b⟩ : Connection) ∈ g.edges

/-- The edges join vertices. -/
def Closed (g : Graph) : Prop := ∀ c ∈ g.edges, c.source ∈ g.vertices ∧ c.target ∈ g.vertices

/-! ## Neighbours -/

theorem mem_successors : b ∈ g.successors a ↔ g.Adj a b := by
  simp only [successors, List.mem_reverse, List.mem_map, List.mem_filter, decide_eq_true_eq]
  constructor
  · rintro ⟨c, ⟨hc, rfl⟩, rfl⟩
    exact hc
  · intro h
    exact ⟨_, ⟨h, rfl⟩, rfl⟩

theorem mem_predecessors : a ∈ g.predecessors b ↔ g.Adj a b := by
  simp only [predecessors, List.mem_reverse, List.mem_map, List.mem_filter, decide_eq_true_eq]
  constructor
  · rintro ⟨c, ⟨hc, rfl⟩, rfl⟩
    exact hc
  · intro h
    exact ⟨_, ⟨h, rfl⟩, rfl⟩

theorem incoming_eq_zero_iff : g.incoming b = 0 ↔ ∀ a, ¬ g.Adj a b := by
  simp [incoming, List.eq_nil_iff_forall_not_mem, mem_predecessors]

theorem outgoing_eq_zero_iff : g.outgoing a = 0 ↔ ∀ b, ¬ g.Adj a b := by
  simp [outgoing, List.eq_nil_iff_forall_not_mem, mem_successors]

theorem incoming_ne_zero_iff : g.incoming b ≠ 0 ↔ ∃ a, g.Adj a b := by
  simp [incoming_eq_zero_iff]

/-! ## Chains -/

theorem Path.source_mem (p : g.Path a b) : a ∈ g.vertices := by
  induction p with
  | refl h => exact h
  | step _ _ _ ih => exact ih

theorem Path.adj (p : g.Path a b) (h : g.Adj b c) : g.Path a c := .step p h rfl

/-- Chains of edges are the reflexive transitive closure of a single edge, at a vertex. -/
theorem path_iff : g.Path a b ↔ a ∈ g.vertices ∧ ReflTransGen g.Adj a b := by
  constructor
  · intro p
    refine ⟨p.source_mem, ?_⟩
    induction p with
    | refl => exact .refl
    | step _ hc hs ih =>
      subst hs
      exact ih.tail hc
  · rintro ⟨ha, h⟩
    induction h with
    | refl => exact .refl ha
    | tail _ hbc ih => exact ih.adj hbc

theorem Closed.target_mem (hg : g.Closed) (h : g.Adj a b) : b ∈ g.vertices := (hg _ h).2

theorem Path.target_mem (hg : g.Closed) (p : g.Path a b) : b ∈ g.vertices := by
  cases p with
  | refl h => exact h
  | step _ hc _ => exact (hg _ hc).2

/-! ## Cycles -/

/-- A graph has a cycle exactly if some vertex leads to itself by at least one edge. -/
theorem Closed.cyclic_iff (hg : g.Closed) : g.Cyclic ↔ ∃ a, TransGen g.Adj a a := by
  constructor
  · rintro ⟨c, hc, p⟩
    exact ⟨c.source, .head' hc (path_iff.1 p).2⟩
  · rintro ⟨a, h⟩
    obtain ⟨b, hab, hba⟩ := TransGen.head'_iff.1 h
    exact ⟨⟨a, b⟩, hab, path_iff.2 ⟨hg.target_mem hab, hba⟩⟩

end Graph

/-! ## The graph of a workflow -/

namespace Workflow

variable {w : Workflow} {a b : String}

theorem mem_edges_graph {c : Connection} :
    c ∈ w.graph.edges ↔ c ∈ w.connections ∧ c.source ∈ w.ids ∧ c.target ∈ w.ids := by
  simp [graph, Graph.ofParts]

theorem mem_dangling_graph {c : Connection} :
    c ∈ w.graph.dangling ↔ c ∈ w.connections ∧ (c.source ∉ w.ids ∨ c.target ∉ w.ids) := by
  simp [graph, Graph.ofParts]

@[simp] theorem contains_graph : w.graph.contains a = w.ids.contains a := rfl

theorem adj_graph :
    w.graph.Adj a b ↔ (⟨a, b⟩ : Connection) ∈ w.connections ∧ a ∈ w.ids ∧ b ∈ w.ids :=
  mem_edges_graph

theorem closed_graph (w : Workflow) : w.graph.Closed := fun _ hc => (mem_edges_graph.1 hc).2

end Workflow

end DataPipeline
