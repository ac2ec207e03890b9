import DataPipeline.Proofs.Plan.Compilation
import DataPipeline.Proofs.Plan.Sequencing

/-!
# The DAG of a plan

Following the next ids of a compiled DAG, execution goes from its one start to its one end without
coming back anywhere, and passes the nodes of each chain in their order. Three views of the
connections meet here: validation follows edges of the graph, the DAG has next ids, and chains are
found by single connections.

## Main definitions

* `Dag.Executable`: every entry lies on a way from the start to the end, and no way comes back
* `Dag.Runs`: the entries of a chain follow each other alone

## Main results

* `Workflow.Spans.executable`: the DAG of a valid workflow can be executed
* `Workflow.runs_of_mem_chains`: it runs its chains
* `Workflow.executable_of_compile`: both, for a plan and its conversions
-/
namespace DataPipeline

open Relation

namespace Dag

/-- Ids are not repeated, next ids have entries and are not repeated, no way comes back to where it
was, and all ways lead from the one start to the one end. -/
structure Executable (d : Dag) : Prop where
  distinct : (d.entries.map (·.id)).Nodup
  closed : ∀ e ∈ d.entries, ∀ id ∈ e.next, id ∈ d.entries.map (·.id)
  single : ∀ e ∈ d.entries, e.next.Nodup
  acyclic : ∀ a, ¬ TransGen d.Follows a a
  spans : ∃ s e, d.entries.filter (·.kind = .start) = [s] ∧
    d.entries.filter (·.kind = .finish) = [e] ∧ ∀ x ∈ d.entries,
      ReflTransGen d.Follows s.id x.id ∧ ReflTransGen d.Follows x.id e.id

/-- Behind the source comes the filter and then the sink, or the sink at once, and nothing else. -/
structure Runs (d : Dag) (c : Chain) : Prop where
  read : (d.entry c.read).map (·.next) = some [c.filter.getD c.write]
  filter : ∀ id ∈ c.filter, (d.entry id).map (·.next) = some [c.write]

end Dag

namespace Workflow

variable {w : Workflow} {options : PlanOptions} {p : Plan} {c : Chain} {n r s e : Node}
  {f : Option Node} {t : Conversion}

/-! ## Ways through the DAG -/

/-- The DAG takes over the ways between the terminals. -/
theorem Spans.executable (hw : w.WellDrawn) (h : w.Spans s e) : (w.dag options).Executable := by
  have hids : (w.dag options).entries.map (·.id) = w.ids := map_id_dagEntries hw.distinct
  have hentry : ∀ x ∈ (w.dag options).entries, ∃ n ∈ w.nodes,
      (⟨n.id, n.kind, n.configId, w.next n.id⟩ : Dag.Entry) = x := by
    intro x hx
    rw [dag, dagEntries_eq hw.distinct] at hx
    exact List.mem_map.1 hx
  refine ⟨hids ▸ hw.distinct, fun x hx id hid => ?_, fun x hx => ?_, ?_, ?_⟩
  · obtain ⟨n, -, rfl⟩ := hentry x hx
    exact hids ▸ (mem_next_iff.1 hid).2
  · obtain ⟨n, -, rfl⟩ := hentry x hx
    exact nodup_next w n.id
  · rw [hw.follows_dag]
    exact hw.acyclic
  · refine ⟨_, _, filter_kind_dagEntries hw.distinct h.starts,
      filter_kind_dagEntries hw.distinct h.ends, fun x hx => ?_⟩
    obtain ⟨n, hn, rfl⟩ := hentry x hx
    rw [hw.follows_dag]
    exact h.between n hn

/-! ## Chains in the DAG -/

/-- The next ids of a node with a single connection out of it. -/
theorem next_entry_of_soleSuccessor (hw : w.ids.Nodup) (hr : r ∈ w.nodes)
    (h : w.soleSuccessor r.id = some n) :
    ((w.dag options).entry r.id).map (·.next) = some [n.id] := by
  rw [entry_dag hw hr, Option.map_some, next_of_soleSuccessor h]

theorem runs_of_mem_chains (hw : w.ids.Nodup) (hc : c ∈ w.chains) : (w.dag options).Runs c := by
  obtain ⟨r, hr, -, h⟩ := mem_chains_iff.1 hc
  rcases chainFrom_eq_some_iff.1 h with ⟨s, hs, -, rfl⟩ | ⟨m, s, hm, -, hs, -, rfl⟩
  · exact ⟨next_entry_of_soleSuccessor hw hr hs, by simp⟩
  · have hfilter : ((w.dag options).entry m.id).map (·.next) = some [s.id] :=
      next_entry_of_soleSuccessor hw (mem_of_soleSuccessor hm) hs
    exact ⟨next_entry_of_soleSuccessor hw hr hm, by simpa using hfilter⟩

/-- The parts of a conversion say what the conversion of its chain is. -/
theorem Links.conversion_of_converts (hw : w.ids.Nodup) (h : w.Links c r s f)
    (ht : Converts options r s f t) : w.conversion options c = .ok t := by
  obtain ⟨input, output, filter, orderBy, aggregation, resources, dagId⟩ := t
  obtain ⟨hinput, houtput, hclauses, rfl, rfl⟩ := ht
  rw [h.conversion_eq hw, Conversion.ofNodes, hinput, houtput, hclauses]
  rfl

/-! ## Plans -/

/-- No node has a conversion as a task of its own. -/
theorem ne_conversion_of_task {dagId : String}
    (h : n.task options dagId = .ok (some (.conversion t))) : False := by
  cases Node.ownTask_of_task_eq_some h

/-- A conversion in a plan is that of a chain of its node. -/
theorem Assigned.exists_chain {a : Assignment} (hw : w.ids.Nodup) (h : w.Assigned options n a)
    (ht : a.task = .conversion t) :
    ∃ c ∈ w.chains, c.read = n.id ∧ w.conversion options c = .ok t := by
  cases h with
  | conversion hc hlinks hconverts =>
    obtain rfl := Task.conversion.inj ht
    exact ⟨_, hc, by rw [hlinks.ids], hlinks.conversion_of_converts hw hconverts⟩
  | own hown htask =>
    obtain rfl : _ = Task.conversion t := ht
    exact (ne_conversion_of_task htask).elim

/-- The task of a source is a conversion. -/
theorem Assigned.exists_conversion {a : Assignment} (h : w.Assigned options n a)
    (hsource : n.isSource = true) : ∃ t, a.task = .conversion t := by
  cases h with
  | conversion => exact ⟨_, rfl⟩
  | own hown =>
    have hnot : n.hasOwnTask = false := Node.plays_only .source hsource .ownTask
    simp [hnot] at hown

/-- A plan for a workflow with a connection has a DAG that can be executed, with the ids of the
workflow. Its conversions are those of chains that the DAG runs, and every source has one. -/
theorem executable_of_compile (hc : w.connections ≠ []) (h : w.compile options = .ok p) :
    p.dag.entries.map (·.id) = w.ids ∧ p.dag.Executable ∧
      (∀ a ∈ p.assignments, ∀ t, a.task = .conversion t →
        ∃ c ∈ w.chains, c.read = a.nodeId ∧ w.conversion options c = .ok t ∧ p.dag.Runs c) ∧
      ∀ n ∈ w.nodes, n.isSource = true →
        ∃ a ∈ p.assignments, a.nodeId = n.id ∧ ∃ t, a.task = .conversion t := by
  have hcompilable := compilable_of_compile h
  obtain ⟨hw, ⟨s, e, hchecked⟩, -⟩ := isValid_iff_checked.1 hcompilable.valid
  have hdag : p.dag = w.dag options := (compile_eq_ok_iff.1 h).2.2
  obtain ⟨q, hq, hassigned⟩ := hcompilable.exists_plan
  obtain rfl : p = q := Except.ok.inj (h.symm.trans hq)
  refine ⟨hdag ▸ map_id_dagEntries hw.distinct,
    hdag ▸ (hchecked.spans hw hc).executable hw, fun a ha t ht => ?_, fun n hn hsource => ?_⟩
  · obtain ⟨n, -, ha⟩ := exists_left_of_forall₂ hassigned ha
    obtain ⟨c, hc, hread, hconv⟩ := ha.exists_chain hw.distinct ht
    exact ⟨c, hc, hread.trans ha.nodeId.symm, hconv, hdag ▸ runs_of_mem_chains hw.distinct hc⟩
  · have hown : n ∈ w.nodes.filter (·.ownsTask) := by simp [hn, Node.ownsTask, hsource]
    obtain ⟨a, ha, hna⟩ := exists_right_of_forall₂ hassigned hown
    exact ⟨a, ha, hna.nodeId, hna.exists_conversion hsource⟩

theorem executable_transfer :
    (transfer "csv").connections ≠ [] ∧ ∃ p, (transfer "csv").compile {} = .ok p ∧
      p.dag.Executable ∧ ∃ c ∈ (transfer "csv").chains, c.read = "in" ∧ p.dag.Runs c := by
  have hc : (transfer "csv").connections ≠ [] := by decide
  obtain ⟨p, hp⟩ : ∃ p, (transfer "csv").compile {} = .ok p := ⟨_, rfl⟩
  obtain ⟨-, hexecutable, hconversions, hsources⟩ := executable_of_compile hc hp
  have hmem : (transfer "csv").nodes[1] ∈ (transfer "csv").nodes := List.getElem_mem _
  obtain ⟨a, ha, hid, t, ht⟩ := hsources _ hmem rfl
  obtain ⟨c, hchain, hread, -, hruns⟩ := hconversions a ha t ht
  exact ⟨hc, p, hp, hexecutable, c, hchain, hread.trans hid, hruns⟩

end Workflow

end DataPipeline
