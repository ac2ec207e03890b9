import DataPipeline.Proofs.Validation.Validity

/-!
# Unreachable nodes

Two rules look after the nodes that the start node does not lead to. The one on degrees asks that
something leads into a node, and spares the terminals; the one on islands asks that the start node
leads to a node, and spares those that nothing leads into. Between them they miss the end nodes that
nothing leads into, and no other node.

## Main definitions

* `Report.Names`: an error of the report is about a node
* `reachCodes`: the codes of the two rules
* `Workflow.Severed`: an id that has end nodes only, with nothing that leads into them

## Main results

* `Workflow.names_unreachable`: the report names the unreachable nodes that are not severed
-/
namespace DataPipeline

/-- Some error of the report has one of the codes and is about the id. -/
def Report.Names (r : Report) (codes : List String) (id : String) : Prop :=
  ∃ d ∈ r.errors, d.code ∈ codes ∧ d.nodeId = some id

instance (r : Report) (codes : List String) (id : String) : Decidable (r.Names codes id) :=
  inferInstanceAs (Decidable (∃ d ∈ r.errors, d.code ∈ codes ∧ d.nodeId = some id))

/-- Degrees and islands. -/
def reachCodes : List String := ["V003", "V004"]

namespace Workflow

variable {w : Workflow} {s n m : Node} {id : String}

/-- All nodes with the id are end nodes, and nothing leads into them. -/
structure Severed (w : Workflow) (id : String) : Prop where
  ends : ∀ m ∈ w.nodes, m.id = id → m.kind = .finish
  unentered : ∀ a, ¬ w.graph.Adj a id

theorem names_validate_iff (codes : List String) :
    w.validate.Names codes id ↔ ∃ f ∈ w.faults, f.code ∈ codes ∧ f.nodeId = some id := by
  simp [Report.Names, validate, Fault.diagnostic]

/-! ## The two rules -/

/-- The rule on degrees names the nodes that nothing leads into, the terminals apart. -/
theorem names_of_unentered (hm : m ∈ w.nodes) (hk : m.kind.isTerminal = false)
    (hno : ∀ a, ¬ w.graph.Adj a m.id) : w.validate.Names reachCodes m.id := by
  have hf : .noIncoming m.id m.label ∈ w.orphans :=
    mem_orphans_iff.2 ⟨m, hm, hk, .inl ⟨hno, rfl⟩⟩
  exact (names_validate_iff _).2 ⟨_, mem_faults.2 (.inr (.inr (.inl hf))), .head _, rfl⟩

theorem kind_ne_start_of_unreachable (hs : w.nodes.filter (·.kind = .start) = [s])
    (hm : m ∈ w.nodes) (hfar : ¬ w.graph.Path s.id m.id) : m.kind ≠ .start := by
  intro hk
  obtain rfl := eq_of_filter_kind hs hm hk
  exact hfar (.refl (mem_ids_of_mem hm))

/-- The rule on islands names the unreachable nodes that something leads into. -/
theorem names_of_entered (hs : w.nodes.filter (·.kind = .start) = [s]) (hn : n ∈ w.nodes)
    (hfar : ¬ w.graph.Path s.id n.id) (ha : ∃ a, w.graph.Adj a n.id) :
    w.validate.Names reachCodes n.id := by
  have hf : .unreachable n.id n.label ∈ w.islands :=
    mem_islands_iff.2 ⟨s, hs, n, hn, kind_ne_start_of_unreachable hs hn hfar, ha, hfar, rfl⟩
  have hfault := mem_faults.2 (.inr (.inr (.inr (.inl hf))))
  exact (names_validate_iff _).2 ⟨_, hfault, .tail _ (.head _), rfl⟩

/-- Neither rule names an id that is severed. -/
theorem not_severed_of_names (h : w.validate.Names reachCodes id) : ¬ w.Severed id := by
  rintro ⟨hends, hno⟩
  obtain ⟨f, hf, hcode, hid⟩ := (names_validate_iff _).1 h
  rcases List.mem_pair.1 hcode with hcode | hcode
  · obtain ⟨m, hm, hk, ⟨-, rfl⟩ | ⟨-, rfl⟩⟩ := mem_orphans_iff.1 (mem_orphans_of_code hf hcode)
    all_goals
      have hfinish := hends m hm (Option.some.inj hid)
      simp [hfinish, Kind.isTerminal] at hk
  · obtain ⟨_, -, m, -, -, ⟨a, ha⟩, -, rfl⟩ := mem_islands_iff.1 (mem_islands_of_code hf hcode)
    exact hno a (Option.some.inj hid ▸ ha)

/-! ## The gap between them -/

theorem names_iff_of_unreachable (hs : w.nodes.filter (·.kind = .start) = [s]) (hn : n ∈ w.nodes)
    (hfar : ¬ w.graph.Path s.id n.id) :
    w.validate.Names reachCodes n.id ↔ ¬ w.Severed n.id := by
  refine ⟨not_severed_of_names, fun hopen => ?_⟩
  by_cases ha : ∃ a, w.graph.Adj a n.id
  · exact names_of_entered hs hn hfar ha
  · rw [not_exists] at ha
    -- The id may be that of several nodes, and another one than `n` may be the one that is named.
    obtain ⟨m, hm, hid, hk⟩ : ∃ m ∈ w.nodes, m.id = n.id ∧ m.kind ≠ .finish := by
      by_contra hall
      exact hopen ⟨fun m hm hid => by_contra fun hk => hall ⟨m, hm, hid, hk⟩, ha⟩
    rw [← hid] at hfar ha ⊢
    have hstart := kind_ne_start_of_unreachable hs hm hfar
    exact names_of_unentered hm (by simp [Kind.isTerminal, hstart, hk]) ha

/-- The nodes that the only start node does not lead to are named by the two rules, except for
severed ones. The rule on islands names only nodes that something leads into and that the only
start node does not lead to. -/
theorem names_unreachable (w : Workflow) :
    (∀ s, w.nodes.filter (·.kind = .start) = [s] → ∀ n ∈ w.nodes, ¬ w.graph.Path s.id n.id →
      (w.validate.Names reachCodes n.id ↔ ¬ w.Severed n.id)) ∧
    ∀ d ∈ w.validate.errors, d.code = "V004" → ∃ s, w.nodes.filter (·.kind = .start) = [s] ∧
      ∃ n ∈ w.nodes, d.nodeId = some n.id ∧ (∃ a, w.graph.Adj a n.id) ∧
        ¬ w.graph.Path s.id n.id := by
  refine ⟨fun s hs n hn hfar => names_iff_of_unreachable hs hn hfar, fun d hd hcode => ?_⟩
  obtain ⟨f, hf, rfl⟩ := List.mem_map.1 hd
  obtain ⟨s, hs, n, hn, -, ha, hfar, rfl⟩ := mem_islands_iff.1 (mem_islands_of_code hf hcode)
  exact ⟨s, hs, n, hn, rfl, ha, hfar⟩

/-- Beside the way from the start node to the end node, two filters that feed each other and one
that nothing feeds. -/
def isles : Workflow where
  nodes := [
    { id := "start", settings := .start {} },
    { id := "left", settings := .filter {} },
    { id := "right", settings := .filter {} },
    { id := "alone", settings := .filter {} },
    { id := "end", settings := .finish {} }]
  connections := [⟨"start", "end"⟩, ⟨"left", "right"⟩, ⟨"right", "left"⟩, ⟨"alone", "end"⟩]

theorem names_unreachable_isles :
    ¬ isles.graph.Path "start" "left" ∧ isles.validate.Names reachCodes "left" ∧
      ¬ isles.graph.Path "start" "alone" ∧ isles.validate.Names reachCodes "alone" ∧
      ∃ d ∈ isles.validate.errors, d.code = "V004" ∧
        ∃ n ∈ isles.nodes, d.nodeId = some n.id ∧ ∃ a, isles.graph.Adj a n.id := by
  obtain ⟨hnames, hislands⟩ := names_unreachable isles
  have hleft : ¬ isles.graph.Path "start" "left" := mt Graph.mem_reached_iff.2 (by decide)
  have halone : ¬ isles.graph.Path "start" "alone" := mt Graph.mem_reached_iff.2 (by decide)
  refine ⟨hleft, ?_, halone, ?_, ?_⟩
  · refine (hnames isles.nodes[0] rfl isles.nodes[1] (List.getElem_mem _) hleft).2 fun h => ?_
    exact h.unentered "right" (Graph.mem_successors.1 (by decide))
  · refine (hnames isles.nodes[0] rfl isles.nodes[3] (List.getElem_mem _) halone).2 fun h => ?_
    exact absurd (h.ends isles.nodes[3] (List.getElem_mem _) rfl) (by decide)
  · obtain ⟨d, hd, hcode⟩ : ∃ d ∈ isles.validate.errors, d.code = "V004" := by decide +kernel
    obtain ⟨-, -, n, hn, hid, ha, -⟩ := hislands d hd hcode
    exact ⟨d, hd, hcode, n, hn, hid, ha⟩

/-- A start node and an end node that no connection joins. -/
def parted : Workflow where
  nodes := [{ id := "start", settings := .start {} }, { id := "end", settings := .finish {} }]
  connections := []

/-- The end node is severed, and the report passes over it. -/
theorem not_names_parted :
    parted.nodes.filter (·.kind = .start) = [parted.nodes[0]] ∧
      ¬ parted.graph.Path "start" "end" ∧ ¬ parted.validate.Names reachCodes "end" ∧
      parted.validate.isValid = true :=
  ⟨rfl, mt Graph.mem_reached_iff.2 (by decide), by decide +kernel, by decide +kernel⟩

end Workflow

end DataPipeline
