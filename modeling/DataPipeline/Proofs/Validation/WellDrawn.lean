import DataPipeline.Proofs.Validation.Rules

/-!
# Well-drawn workflows

A workflow is well drawn if its ids are distinct and its connections make a simple graph without
cycles on them. Five rules of validation look after this, whatever else is still missing.

## Main definitions

* `Workflow.Connects`: one connection leads from an id to another
* `Workflow.WellDrawn`
* `Report.Lacks`, `drawingCodes`: reports that are silent on some rules
* `Workflow.transfer`: a small workflow for examples

## Main results

* `Workflow.wellDrawn_iff_lacks`: the report is silent on the five rules
-/
namespace DataPipeline

open Relation

/-- No error of the report has one of the codes. -/
def Report.Lacks (r : Report) (codes : List String) : Prop := ∀ d ∈ r.errors, d.code ∉ codes

instance (r : Report) (codes : List String) : Decidable (r.Lacks codes) :=
  inferInstanceAs (Decidable (∀ d ∈ r.errors, d.code ∉ codes))

/-- Dangling connections, loops, repeated connections, cycles and repeated ids. -/
def drawingCodes : List String := ["V005", "V006", "V007", "V008", "V010"]

namespace Workflow

variable {w : Workflow} {a b : String}

/-- One connection leads from `a` to `b`. -/
def Connects (w : Workflow) (a b : String) : Prop := (⟨a, b⟩ : Connection) ∈ w.connections

structure WellDrawn (w : Workflow) : Prop where
  distinct : w.ids.Nodup
  joined : ∀ c ∈ w.connections, c.source ∈ w.ids ∧ c.target ∈ w.ids
  loopless : ∀ c ∈ w.connections, c.source ≠ c.target
  single : w.connections.Nodup
  acyclic : ∀ a, ¬ TransGen w.Connects a a

/-- Where nothing dangles, the edges are the connections. -/
theorem adj_graph_of_joined (h : ∀ c ∈ w.connections, c.source ∈ w.ids ∧ c.target ∈ w.ids) :
    w.graph.Adj = w.Connects := by
  funext a b
  exact propext ⟨fun hab => (adj_graph.1 hab).1, fun hab => adj_graph.2 ⟨hab, h _ hab⟩⟩

theorem wellDrawn_iff_rules :
    w.WellDrawn ↔ w.unknownEndpoints = [] ∧ w.selfLoops = [] ∧ w.repeatedConnections = [] ∧
      w.cycles = [] ∧ w.repeatedIds = [] := by
  rw [unknownEndpoints_eq_nil_iff, selfLoops_eq_nil_iff, repeatedConnections_eq_nil_iff,
    cycles_eq_nil_iff, repeatedIds_eq_nil_iff, (closed_graph w).cyclic_iff, not_exists]
  constructor
  · rintro ⟨distinct, joined, loopless, single, acyclic⟩
    exact ⟨joined, loopless, single, adj_graph_of_joined joined ▸ acyclic, distinct⟩
  · rintro ⟨joined, loopless, single, acyclic, distinct⟩
    exact ⟨distinct, joined, loopless, single, adj_graph_of_joined joined ▸ acyclic⟩

/-! ## Silent reports -/

theorem lacks_validate_iff (codes : List String) :
    w.validate.Lacks codes ↔ ∀ f ∈ w.faults, f.code ∉ codes := by
  simp [Report.Lacks, validate, Fault.diagnostic]

/-- A rule whose code the report lacks has no faults. -/
theorem eq_nil_of_lacks {codes : List String} {code : String} {fs : List Fault}
    (h : w.validate.Lacks codes) (hcode : code ∈ codes) (hfs : ∀ f ∈ fs, f.code = code)
    (hsub : ∀ f ∈ fs, f ∈ w.faults) : fs = [] := by
  refine List.eq_nil_iff_forall_not_mem.2 fun f hf => ?_
  exact (lacks_validate_iff codes).1 h f (hsub f hf) (hfs f hf ▸ hcode)

theorem lacks_drawingCodes_iff :
    w.validate.Lacks drawingCodes ↔ w.unknownEndpoints = [] ∧ w.selfLoops = [] ∧
      w.repeatedConnections = [] ∧ w.cycles = [] ∧ w.repeatedIds = [] := by
  constructor
  · intro h
    refine ⟨?_, ?_, ?_, ?_, ?_⟩
    · exact eq_nil_of_lacks h (by decide) (fun _ => code_of_mem_unknownEndpoints)
        fun f hf => by simp [mem_faults, hf]
    · exact eq_nil_of_lacks h (by decide) (fun _ => code_of_mem_selfLoops)
        fun f hf => by simp [mem_faults, hf]
    · exact eq_nil_of_lacks h (by decide) (fun _ => code_of_mem_repeatedConnections)
        fun f hf => by simp [mem_faults, hf]
    · exact eq_nil_of_lacks h (by decide) (fun _ => code_of_mem_cycles)
        fun f hf => by simp [mem_faults, hf]
    · exact eq_nil_of_lacks h (by decide) (fun _ => code_of_mem_repeatedIds)
        fun f hf => by simp [mem_faults, hf]
  · rintro ⟨dangling, loops, twice, cycle, ids⟩
    refine (lacks_validate_iff _).2 fun f hf => ?_
    simp only [mem_faults, dangling, loops, twice, cycle, ids, List.not_mem_nil, false_or] at hf
    rcases hf with hf | hf | hf | hf | ⟨n, -, hf⟩
    · rw [code_of_mem_terminalCounts hf]
      decide
    · rw [code_of_mem_terminalDegrees hf]
      decide
    · rw [code_of_mem_orphans hf]
      decide
    · rw [code_of_mem_islands hf]
      decide
    · rw [code_of_mem_nodeFaults hf]
      decide

theorem wellDrawn_iff_lacks : w.WellDrawn ↔ w.validate.Lacks drawingCodes :=
  wellDrawn_iff_rules.trans lacks_drawingCodes_iff.symm

/-- A file is read and written again, both times in the same format. -/
def transfer (format : String) : Workflow where
  nodes := [
    { id := "start", settings := .start {} },
    { id := "in", settings := .readFile { path := some "in.dat", format := some format } },
    { id := "out", settings := .writeFile { path := some "out.dat", format := some format } },
    { id := "end", settings := .finish {} }]
  connections := [⟨"start", "in"⟩, ⟨"in", "out"⟩, ⟨"out", "end"⟩]

end Workflow

end DataPipeline
