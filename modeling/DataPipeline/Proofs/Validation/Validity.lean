import DataPipeline.Proofs.Graph.Acyclic
import DataPipeline.Proofs.Validation.WellDrawn

/-!
# Valid workflows

A workflow with a connection is valid exactly if it is well drawn, each node lies on a way from its
one start node to its one end node, and no node lacks anything. The rules look at the neighbours of
a node and at what the start node leads to. That a node leads to the end node follows from the
absence of cycles: going on along connections comes to a stop, and only the end node stops it.

## Main definitions

* `Workflow.Spans`: all ways lead from the start node to the end node

## Main results

* `Workflow.isValid_iff_spans`: validity of a workflow with a connection
-/
namespace DataPipeline.Workflow

open Relation

variable {w : Workflow} {s e n : Node}

/-- The one start node `s`, which nothing leads into, and the one end node `e`, which nothing leads
out of, with all nodes between them. -/
structure Spans (w : Workflow) (s e : Node) : Prop where
  starts : w.nodes.filter (·.kind = .start) = [s]
  ends : w.nodes.filter (·.kind = .finish) = [e]
  unentered : ∀ a, ¬ w.Connects a s.id
  unleft : ∀ b, ¬ w.Connects e.id b
  between : ∀ n ∈ w.nodes, ReflTransGen w.Connects s.id n.id ∧ ReflTransGen w.Connects n.id e.id

/-! ## Terminals -/

theorem countKind_eq_one_iff {k : Kind} :
    w.countKind k = 1 ↔ ∃ n, w.nodes.filter (·.kind = k) = [n] := by
  rw [countKind, List.countP_eq_length_filter, List.length_eq_one_iff]

theorem mem_of_filter_kind {k : Kind} (h : w.nodes.filter (·.kind = k) = [s]) :
    s ∈ w.nodes ∧ s.kind = k := by
  have hs : s ∈ w.nodes.filter (·.kind = k) := by simp [h]
  simpa using hs

theorem eq_of_filter_kind {k : Kind} (h : w.nodes.filter (·.kind = k) = [s]) (hn : n ∈ w.nodes)
    (hk : n.kind = k) : n = s := by
  have : n ∈ w.nodes.filter (·.kind = k) := by simp [hn, hk]
  simpa [h] using this

theorem eq_of_not_isTerminal (hs : w.nodes.filter (·.kind = .start) = [s])
    (he : w.nodes.filter (·.kind = .finish) = [e]) (hn : n ∈ w.nodes) :
    n.kind.isTerminal = false ∨ n = s ∨ n = e := by
  by_cases h : n.kind = .start
  · exact .inr (.inl (eq_of_filter_kind hs hn h))
  · by_cases h' : n.kind = .finish
    · exact .inr (.inr (eq_of_filter_kind he hn h'))
    · simp [Kind.isTerminal, h, h']

/-! ## From the rules to ways -/

/-- What the rules on terminals, degrees and islands say where nothing dangles. -/
structure Checked (w : Workflow) (s e : Node) : Prop where
  starts : w.nodes.filter (·.kind = .start) = [s]
  ends : w.nodes.filter (·.kind = .finish) = [e]
  unentered : ∀ a, ¬ w.Connects a s.id
  unleft : ∀ b, ¬ w.Connects e.id b
  entered : ∀ n ∈ w.nodes, n.kind.isTerminal = false → ∃ a, w.Connects a n.id
  left : ∀ n ∈ w.nodes, n.kind.isTerminal = false → ∃ b, w.Connects n.id b
  reached : ∀ n ∈ w.nodes, n.kind ≠ .start → (∃ a, w.Connects a n.id) →
    ReflTransGen w.Connects s.id n.id

theorem exists_checked_iff (hw : w.WellDrawn) :
    (∃ s e, w.Checked s e) ↔ w.terminalCounts = [] ∧ w.terminalDegrees = [] ∧ w.orphans = [] ∧
      w.islands = [] := by
  have hadj := adj_graph_of_joined hw.joined
  constructor
  · rintro ⟨s, e, h⟩
    refine ⟨?_, ?_, ?_, ?_⟩
    · rw [terminalCounts_eq_nil_iff, countKind_eq_one_iff, countKind_eq_one_iff]
      exact ⟨⟨s, h.starts⟩, e, h.ends⟩
    · rw [terminalDegrees_eq_nil_iff, hadj]
      refine fun n hn => ⟨fun hk => ?_, fun hk => ?_⟩
      · exact eq_of_filter_kind h.starts hn hk ▸ h.unentered
      · exact eq_of_filter_kind h.ends hn hk ▸ h.unleft
    · rw [orphans_eq_nil_iff, hadj]
      exact fun n hn hk => ⟨h.entered n hn hk, h.left n hn hk⟩
    · rw [islands_eq_nil_iff h.starts, hadj]
      intro n hn hk ha
      rw [Graph.path_iff, hadj]
      exact ⟨mem_ids_of_mem (mem_of_filter_kind h.starts).1, h.reached n hn hk ha⟩
  · rintro ⟨counts, degrees, orphans, islands⟩
    rw [terminalCounts_eq_nil_iff, countKind_eq_one_iff, countKind_eq_one_iff] at counts
    obtain ⟨⟨s, hs⟩, e, he⟩ := counts
    rw [terminalDegrees_eq_nil_iff, hadj] at degrees
    rw [orphans_eq_nil_iff, hadj] at orphans
    rw [islands_eq_nil_iff hs, hadj] at islands
    obtain ⟨hsmem, hsk⟩ := mem_of_filter_kind hs
    obtain ⟨hemem, hek⟩ := mem_of_filter_kind he
    refine ⟨s, e, hs, he, (degrees s hsmem).1 hsk, (degrees e hemem).2 hek, ?_, ?_, ?_⟩
    · exact fun n hn hk => (orphans n hn hk).1
    · exact fun n hn hk => (orphans n hn hk).2
    · intro n hn hk ha
      have hpath := islands n hn hk ha
      rw [Graph.path_iff, hadj] at hpath
      exact hpath.2

namespace Checked

/-- A connection leads somewhere that the start node leads to, hence away from the start node. -/
theorem exists_from_start (hw : w.WellDrawn) (h : w.Checked s e) (hc : w.connections ≠ []) :
    ∃ b, w.Connects s.id b := by
  obtain ⟨c, hc⟩ := List.exists_mem_of_ne_nil _ hc
  obtain ⟨m, hm, hid⟩ := mem_ids.1 (hw.joined c hc).2
  have hin : w.Connects c.source m.id := hid ▸ hc
  have hk : m.kind ≠ .start := by
    intro hk
    exact h.unentered c.source (eq_of_filter_kind h.starts hm hk ▸ hin)
  rcases (h.reached m hm hk ⟨_, hin⟩).cases_head with heq | ⟨b, hsb, -⟩
  · exact absurd (heq ▸ hin) (h.unentered c.source)
  · exact ⟨b, hsb⟩

/-- Going on from a node comes to a stop, and only the end node stops it. -/
theorem reaches_end (hw : w.WellDrawn) (h : w.Checked s e) (hc : w.connections ≠ [])
    (hn : n ∈ w.nodes) : ReflTransGen w.Connects n.id e.id := by
  obtain ⟨b, hb, hnb, hlast⟩ := exists_last_of_acyclic (fun _ _ hab => (hw.joined _ hab).2)
    hw.acyclic (mem_ids_of_mem hn)
  obtain ⟨m, hm, rfl⟩ := mem_ids.1 hb
  rcases eq_of_not_isTerminal h.starts h.ends hm with hk | rfl | rfl
  · obtain ⟨c, hmc⟩ := h.left m hm hk
    exact absurd hmc (hlast c)
  · obtain ⟨c, hmc⟩ := h.exists_from_start hw hc
    exact absurd hmc (hlast c)
  · exact hnb

theorem spans (hw : w.WellDrawn) (h : w.Checked s e) (hc : w.connections ≠ []) : w.Spans s e := by
  have hsk := mem_of_filter_kind h.starts
  have hek := mem_of_filter_kind h.ends
  have hentered : ∃ a, w.Connects a e.id := by
    rcases (h.reaches_end hw hc hsk.1).cases_tail with heq | ⟨a, -, hae⟩
    · have hse := eq_of_id_eq hw.distinct hek.1 hsk.1 heq
      simp [hse, hsk.2] at hek
    · exact ⟨a, hae⟩
  have hreached : ∀ n ∈ w.nodes, ReflTransGen w.Connects s.id n.id := by
    intro n hn
    rcases eq_of_not_isTerminal h.starts h.ends hn with hk | rfl | rfl
    · have hns : n.kind ≠ .start := by
        rintro hns
        simp [Kind.isTerminal, hns] at hk
      exact h.reached n hn hns (h.entered n hn hk)
    · exact .refl
    · exact h.reached n hn (by simp [hek.2]) hentered
  exact ⟨h.starts, h.ends, h.unentered, h.unleft,
    fun n hn => ⟨hreached n hn, h.reaches_end hw hc hn⟩⟩

end Checked

/-! ## From ways to the rules -/

theorem Spans.checked (hw : w.WellDrawn) (h : w.Spans s e) : w.Checked s e := by
  have hsk := mem_of_filter_kind h.starts
  have hek := mem_of_filter_kind h.ends
  refine ⟨h.starts, h.ends, h.unentered, h.unleft, fun n hn hk => ?_, fun n hn hk => ?_,
    fun n hn _ _ => (h.between n hn).1⟩
  · rcases (h.between n hn).1.cases_tail with heq | ⟨a, -, han⟩
    · have hns := eq_of_id_eq hw.distinct hn hsk.1 heq
      simp [hns, hsk.2, Kind.isTerminal] at hk
    · exact ⟨a, han⟩
  · rcases (h.between n hn).2.cases_head with heq | ⟨b, hnb, -⟩
    · have hne := eq_of_id_eq hw.distinct hn hek.1 heq
      simp [hne, hek.2, Kind.isTerminal] at hk
    · exact ⟨b, hnb⟩

/-! ## Validity -/

theorem isValid_iff_checked :
    w.validate.isValid = true ↔
      w.WellDrawn ∧ (∃ s e, w.Checked s e) ∧ ∀ n ∈ w.nodes, n.faults = [] := by
  rw [isValid_validate_iff, faults_eq_nil_iff]
  constructor
  · rintro ⟨counts, degrees, orphans, islands, dangling, loops, twice, cycle, ids, nodes⟩
    have hw := wellDrawn_iff_rules.2 ⟨dangling, loops, twice, cycle, ids⟩
    exact ⟨hw, (exists_checked_iff hw).2 ⟨counts, degrees, orphans, islands⟩, nodes⟩
  · rintro ⟨hw, hchecked, nodes⟩
    obtain ⟨dangling, loops, twice, cycle, ids⟩ := wellDrawn_iff_rules.1 hw
    obtain ⟨counts, degrees, orphans, islands⟩ := (exists_checked_iff hw).1 hchecked
    exact ⟨counts, degrees, orphans, islands, dangling, loops, twice, cycle, ids, nodes⟩

/-- Ways between the terminals replace the rules on degrees and islands. -/
theorem isValid_iff_spans (hc : w.connections ≠ []) :
    w.validate.isValid = true ↔
      w.WellDrawn ∧ (∃ s e, w.Spans s e) ∧ ∀ n ∈ w.nodes, n.faults = [] := by
  rw [isValid_iff_checked]
  constructor
  · rintro ⟨hw, ⟨s, e, h⟩, hn⟩
    exact ⟨hw, ⟨s, e, h.spans hw hc⟩, hn⟩
  · rintro ⟨hw, ⟨s, e, h⟩, hn⟩
    exact ⟨hw, ⟨s, e, h.checked hw⟩, hn⟩

theorem spans_transfer :
    (transfer "csv").connections ≠ [] ∧ (transfer "csv").WellDrawn ∧
      (∃ s e, (transfer "csv").Spans s e) ∧ ∀ n ∈ (transfer "csv").nodes, n.faults = [] := by
  have hc : (transfer "csv").connections ≠ [] := by decide
  exact ⟨hc, (isValid_iff_spans hc).1 (by decide +kernel)⟩

end DataPipeline.Workflow
