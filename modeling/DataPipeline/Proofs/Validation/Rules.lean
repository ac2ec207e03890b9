import DataPipeline.Proofs.Graph.Reachability
import DataPipeline.Proofs.Workflow.Lookup
import DataPipeline.Validation.Basic

/-!
# The rules of validation

Each rule reports nothing exactly if a condition on the workflow holds, and all its faults have one
code.

## Main results

* `Workflow.selfLoops_eq_nil_iff` and its like: the condition behind each rule
* `Workflow.mem_orphans_iff`, `Workflow.mem_islands_iff`: the faults of the rules on single nodes
* `Workflow.code_of_mem_selfLoops` and its like: the code of its faults
* `Workflow.mem_faults`: where a fault comes from
* `Workflow.filter_faults_eq_unknownEndpoints`: the faults of one code
* `Workflow.faults_eq_nil_iff`: no fault means that no rule and no node has one
-/
namespace DataPipeline

variable {α : Type} [DecidableEq α]

theorem repeated_eq_nil_iff {seen as : List α} :
    repeated seen as = [] ↔ as.Nodup ∧ ∀ a ∈ as, a ∉ seen := by
  induction as generalizing seen with
  | nil => simp [repeated]
  | cons a as ih =>
    by_cases ha : a ∈ seen
    · simp [repeated, ha]
    · rw [repeated, if_neg ha, ih]
      grind

namespace Workflow

variable {w : Workflow} {f : Fault}

/-! ## Terminals -/

theorem terminalCounts_eq_nil_iff :
    w.terminalCounts = [] ↔ w.countKind .start = 1 ∧ w.countKind .finish = 1 := by
  simp [terminalCounts]

theorem terminalDegrees_eq_nil_iff :
    w.terminalDegrees = [] ↔ ∀ n ∈ w.nodes,
      (n.kind = .start → ∀ a, ¬ w.graph.Adj a n.id) ∧
        (n.kind = .finish → ∀ b, ¬ w.graph.Adj n.id b) := by
  simp only [terminalDegrees, List.filterMap_eq_nil_iff]
  refine forall₂_congr fun n _ => ?_
  rw [← Graph.incoming_eq_zero_iff, ← Graph.outgoing_eq_zero_iff]
  grind

/-! ## Degrees and islands -/

theorem mem_orphans_iff :
    f ∈ w.orphans ↔ ∃ n ∈ w.nodes, n.kind.isTerminal = false ∧
      ((∀ a, ¬ w.graph.Adj a n.id) ∧ f = .noIncoming n.id n.label ∨
        (∀ b, ¬ w.graph.Adj n.id b) ∧ f = .noOutgoing n.id n.label) := by
  simp only [orphans, List.mem_flatMap, List.mem_filter, Bool.not_eq_true', and_assoc,
    List.mem_append, List.mem_ite_nil_right, List.mem_singleton, Graph.incoming_eq_zero_iff,
    Graph.outgoing_eq_zero_iff]

theorem orphans_eq_nil_iff :
    w.orphans = [] ↔ ∀ n ∈ w.nodes, n.kind.isTerminal = false →
      (∃ a, w.graph.Adj a n.id) ∧ ∃ b, w.graph.Adj n.id b := by
  simp only [List.eq_nil_iff_forall_not_mem, mem_orphans_iff]
  constructor
  · intro h n hn hk
    constructor <;> by_contra hno
    · exact h _ ⟨n, hn, hk, .inl ⟨not_exists.1 hno, rfl⟩⟩
    · exact h _ ⟨n, hn, hk, .inr ⟨not_exists.1 hno, rfl⟩⟩
  · rintro h f ⟨n, hn, hk, ⟨hno, -⟩ | ⟨hno, -⟩⟩
    · obtain ⟨a, ha⟩ := (h n hn hk).1
      exact hno a ha
    · obtain ⟨b, hb⟩ := (h n hn hk).2
      exact hno b hb

theorem mem_islands_iff :
    f ∈ w.islands ↔ ∃ s, w.nodes.filter (·.kind = .start) = [s] ∧ ∃ n ∈ w.nodes,
      n.kind ≠ .start ∧ (∃ a, w.graph.Adj a n.id) ∧ ¬ w.graph.Path s.id n.id ∧
        f = .unreachable n.id n.label := by
  rw [islands]
  split
  · rename_i s hs
    simp only [hs, List.cons.injEq, and_true, exists_eq_left', List.mem_map, List.mem_filter,
      ← Graph.incoming_ne_zero_iff, ← Graph.mem_reached_iff]
    refine exists_congr fun n => ?_
    simp [and_assoc, eq_comm (a := f)]
  · rename_i hs
    simp only [List.not_mem_nil, false_iff, not_exists, not_and]
    exact fun s h => absurd h (hs s)

theorem islands_eq_nil_iff {s : Node} (hs : w.nodes.filter (·.kind = .start) = [s]) :
    w.islands = [] ↔ ∀ n ∈ w.nodes, n.kind ≠ .start → (∃ a, w.graph.Adj a n.id) →
      w.graph.Path s.id n.id := by
  simp only [List.eq_nil_iff_forall_not_mem, mem_islands_iff, hs, List.cons.injEq, and_true,
    exists_eq_left']
  constructor
  · intro h n hn hk ha
    by_contra hno
    exact h _ ⟨n, hn, hk, ha, hno, rfl⟩
  · rintro h f ⟨n, hn, hk, ha, hno, -⟩
    exact hno (h n hn hk ha)

/-! ## Connections and ids -/

theorem unknownEndpoints_eq_nil_iff :
    w.unknownEndpoints = [] ↔ ∀ c ∈ w.connections, c.source ∈ w.ids ∧ c.target ∈ w.ids := by
  have reported : w.unknownEndpoints = [] ↔
      ∀ c ∈ w.graph.dangling, c.source ∈ w.ids ∧ c.target ∈ w.ids := by
    simp [unknownEndpoints]
  rw [reported]
  constructor
  · intro h c hc
    by_cases hends : c.source ∈ w.ids ∧ c.target ∈ w.ids
    · exact hends
    · exact h c (mem_dangling_graph.2 ⟨hc, Decidable.not_and_iff_not_or_not.1 hends⟩)
  · exact fun h c hc => h c (mem_dangling_graph.1 hc).1

theorem selfLoops_eq_nil_iff : w.selfLoops = [] ↔ ∀ c ∈ w.connections, c.source ≠ c.target := by
  simp [selfLoops]

theorem repeatedConnections_eq_nil_iff : w.repeatedConnections = [] ↔ w.connections.Nodup := by
  simp [repeatedConnections, repeated_eq_nil_iff]

theorem repeatedIds_eq_nil_iff : w.repeatedIds = [] ↔ w.ids.Nodup := by
  simp [repeatedIds, repeated_eq_nil_iff]

theorem cycles_eq_nil_iff : w.cycles = [] ↔ ¬ w.graph.Cyclic := by
  simp [cycles, ← (closed_graph w).hasCycle_iff]

/-! ## Codes -/

theorem code_of_mem_terminalCounts (hf : f ∈ w.terminalCounts) : f.code = "V001" := by
  obtain ⟨k, -, hk⟩ := List.mem_filterMap.1 hf
  grind [Fault.code]

theorem code_of_mem_terminalDegrees (hf : f ∈ w.terminalDegrees) : f.code = "V002" := by
  obtain ⟨n, -, hn⟩ := List.mem_filterMap.1 hf
  grind [Fault.code]

theorem code_of_mem_orphans (hf : f ∈ w.orphans) : f.code = "V003" := by
  obtain ⟨n, -, -, ⟨-, rfl⟩ | ⟨-, rfl⟩⟩ := mem_orphans_iff.1 hf <;> rfl

theorem code_of_mem_islands (hf : f ∈ w.islands) : f.code = "V004" := by
  obtain ⟨s, -, n, -, -, -, -, rfl⟩ := mem_islands_iff.1 hf
  rfl

theorem code_of_mem_unknownEndpoints (hf : f ∈ w.unknownEndpoints) : f.code = "V005" := by
  obtain ⟨c, -, hc⟩ := List.mem_flatMap.1 hf
  obtain ⟨id, -, rfl⟩ := List.mem_map.1 hc
  rfl

theorem code_of_mem_selfLoops (hf : f ∈ w.selfLoops) : f.code = "V006" := by
  obtain ⟨c, -, rfl⟩ := List.mem_map.1 hf
  rfl

theorem code_of_mem_repeatedConnections (hf : f ∈ w.repeatedConnections) : f.code = "V007" := by
  obtain ⟨c, -, rfl⟩ := List.mem_map.1 hf
  rfl

theorem code_of_mem_cycles (hf : f ∈ w.cycles) : f.code = "V008" := by
  rw [cycles] at hf
  split at hf
  · obtain rfl := List.mem_singleton.1 hf
    rfl
  · simp at hf

theorem code_of_mem_nodeFaults {n : Node} (hf : f ∈ n.faults) : f.code = "V009" := by
  obtain ⟨field, -, rfl⟩ := List.mem_map.1 hf
  rfl

theorem code_of_mem_repeatedIds (hf : f ∈ w.repeatedIds) : f.code = "V010" := by
  obtain ⟨id, -, rfl⟩ := List.mem_map.1 hf
  rfl

attribute [grind →] code_of_mem_terminalCounts code_of_mem_terminalDegrees code_of_mem_orphans
  code_of_mem_islands code_of_mem_unknownEndpoints code_of_mem_selfLoops
  code_of_mem_repeatedConnections code_of_mem_cycles code_of_mem_nodeFaults code_of_mem_repeatedIds

/-! ## All rules -/

/-- A fault comes from a rule or from a node. -/
theorem mem_faults :
    f ∈ w.faults ↔ f ∈ w.terminalCounts ∨ f ∈ w.terminalDegrees ∨ f ∈ w.orphans ∨ f ∈ w.islands ∨
      f ∈ w.unknownEndpoints ∨ f ∈ w.selfLoops ∨ f ∈ w.repeatedConnections ∨ f ∈ w.cycles ∨
      f ∈ w.repeatedIds ∨ ∃ n ∈ w.nodes, f ∈ n.faults := by
  simp only [faults, structuralFaults, List.mem_append, List.mem_flatMap, or_assoc]

theorem mem_orphans_of_code (hf : f ∈ w.faults) (hcode : f.code = "V003") : f ∈ w.orphans := by
  rw [mem_faults] at hf
  grind

theorem mem_islands_of_code (hf : f ∈ w.faults) (hcode : f.code = "V004") : f ∈ w.islands := by
  rw [mem_faults] at hf
  grind

/-- The faults with the code of unknown endpoints are those of their rule. -/
theorem filter_faults_eq_unknownEndpoints (w : Workflow) :
    w.faults.filter (·.code = "V005") = w.unknownEndpoints := by
  have hother {fs : List Fault} (h : ∀ f ∈ fs, f.code ≠ "V005") :
      fs.filter (·.code = "V005") = [] := by
    simpa [List.filter_eq_nil_iff] using h
  have hbefore : ∀ f ∈ w.terminalCounts ++ w.terminalDegrees ++ w.orphans ++ w.islands,
      f.code ≠ "V005" := by grind
  have hafter : ∀ f ∈ w.selfLoops ++ w.repeatedConnections ++ w.cycles ++ w.repeatedIds ++
      w.nodes.flatMap Node.faults, f.code ≠ "V005" := by grind
  have hown : w.unknownEndpoints.filter (·.code = "V005") = w.unknownEndpoints := by
    rw [List.filter_eq_self]
    exact fun f hf => by simp [code_of_mem_unknownEndpoints hf]
  have hsplit : w.faults = (w.terminalCounts ++ w.terminalDegrees ++ w.orphans ++ w.islands) ++
      w.unknownEndpoints ++ (w.selfLoops ++ w.repeatedConnections ++ w.cycles ++ w.repeatedIds ++
        w.nodes.flatMap Node.faults) := by
    simp only [faults, structuralFaults, List.append_assoc]
  rw [hsplit, List.filter_append, List.filter_append, hother hbefore, hown, hother hafter,
    List.nil_append, List.append_nil]

theorem faults_eq_nil_iff :
    w.faults = [] ↔ w.terminalCounts = [] ∧ w.terminalDegrees = [] ∧ w.orphans = [] ∧
      w.islands = [] ∧ w.unknownEndpoints = [] ∧ w.selfLoops = [] ∧ w.repeatedConnections = [] ∧
      w.cycles = [] ∧ w.repeatedIds = [] ∧ ∀ n ∈ w.nodes, n.faults = [] := by
  simp [faults, structuralFaults]

theorem isValid_validate_iff : w.validate.isValid = true ↔ w.faults = [] := by
  simp [validate, Report.isValid]

end Workflow

end DataPipeline
