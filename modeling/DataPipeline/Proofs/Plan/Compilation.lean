import DataPipeline.Proofs.Plan.Contribution
import DataPipeline.Proofs.Plan.Gather
import DataPipeline.Proofs.Validation.Validity

/-!
# When there is a plan, and which

There is a plan if the workflow is valid, sources and sinks are chained, and no mapper objects to a
node. It then has one task for each source and each node with a task of its own, in the order of the
nodes.

## Main definitions

* `Workflow.Compilable`: what a workflow needs to have a plan
* `Workflow.Assigned`: the task that a plan has for a node

## Main results

* `Workflow.compile_eq_ok_spec`: the workflows that have a plan, and all that it says
-/
namespace DataPipeline

/-- The nodes that a plan has a task for. -/
def Node.ownsTask (n : Node) : Bool := n.isSource || n.hasOwnTask

namespace Workflow

variable {w : Workflow} {options : PlanOptions} {p : Plan} {n : Node}

structure Compilable (w : Workflow) (options : PlanOptions) : Prop where
  valid : w.validate.isValid = true
  sources : ∀ n ∈ w.nodes, n.isSource = true → ∃ c ∈ w.chains, c.read = n.id
  sinks : ∀ n ∈ w.nodes, n.isSink = true → ∃ c ∈ w.chains, c.write = n.id
  accepted : ∀ n ∈ w.nodes, n.objection options = none

/-- A source has the conversion of its chain, and other nodes have a task of their own. -/
inductive Assigned (w : Workflow) (options : PlanOptions) (n : Node) : Assignment → Prop
  | conversion {c : Chain} {s : Node} {f : Option Node} {t : Conversion} (hc : c ∈ w.chains)
      (hlinks : w.Links c n s f) (ht : Converts options n s f t) :
      Assigned w options n ⟨n.id, n.configId, .conversion t⟩
  | own {t : Task} (hown : n.hasOwnTask = true)
      (ht : n.task options options.dagId = .ok (some t)) :
      Assigned w options n ⟨n.id, n.configId, t⟩

/-! ## Gathering the contributions -/

theorem compile_eq_ok_iff :
    w.compile options = .ok p ↔ w.faults = [] ∧
      gather (w.assign w.chains options) w.nodes = .ok p.assignments ∧ p.dag = w.dag options := by
  by_cases hfaults : w.faults = []
  · cases hgather : gather (w.assign w.chains options) w.nodes with
    | error xs => simp [compile, hfaults, hgather, bind, Except.bind]
    | ok as =>
      obtain ⟨dag, assignments⟩ := p
      simp [compile, hfaults, hgather, bind, Except.bind, pure, Except.pure, and_comm, eq_comm]
  · simp [compile, hfaults]

theorem compile_eq_error_iff {errors : List CompileError} :
    w.compile options = .error errors ↔
      (w.faults ≠ [] ∧ errors = w.faults.map .invalid) ∨
        (w.faults = [] ∧ gather (w.assign w.chains options) w.nodes = .error errors) := by
  by_cases hfaults : w.faults = []
  · cases hgather : gather (w.assign w.chains options) w.nodes <;>
      simp [compile, hfaults, hgather, bind, Except.bind, pure, Except.pure]
  · simp [compile, hfaults, eq_comm (a := errors)]

/-- The errors of a valid workflow are those that its nodes contribute. -/
theorem gather_eq_of_compile_eq_error {errors : List CompileError}
    (hvalid : w.validate.isValid = true) (h : w.compile options = .error errors) :
    gather (w.assign w.chains options) w.nodes = .error errors := by
  rcases compile_eq_error_iff.1 h with ⟨hfaults, -⟩ | ⟨-, hgather⟩
  · exact absurd (isValid_validate_iff.1 hvalid) hfaults
  · exact hgather

theorem distinct_of_isValid (h : w.validate.isValid = true) : w.ids.Nodup :=
  (isValid_iff_checked.1 h).1.distinct

/-! ## From a plan to its conditions -/

section NoErrors

variable (hw : w.ids.Nodup)
  (hok : ∀ n ∈ w.nodes, ∀ xs, w.assign w.chains options n ≠ .error xs)

include hw hok

theorem complaints_eq_nil_of_ok (hn : n ∈ w.nodes) (hloose : w.Loose n) :
    complaints options n = [] := by
  by_contra hne
  exact hok n hn _ (assign_of_complaints hw hn hloose hne)

/-- An objection in a chain would be an error of its source. -/
theorem firstObjection_eq_none_of_ok {c : Chain} {r s : Node} {f : Option Node}
    (hc : c ∈ w.chains) (hlinks : w.Links c r s f) : firstObjection options r s f = none := by
  cases hfirst : firstObjection options r s f with
  | none => rfl
  | some e =>
    have herror := (assign_eq_error_iff hw hlinks.read).2
      (.inr ⟨c, hc, s, f, e, hlinks, hfirst, rfl⟩)
    exact absurd herror (hok r hlinks.read _)

theorem exists_chain_of_isSource (hn : n ∈ w.nodes) (hsource : n.isSource = true) :
    ∃ c ∈ w.chains, c.read = n.id := by
  rcases loose_or_member hw hn with hloose | ⟨c, hc, r, s, f, hlinks, hmem⟩
  · have hnil := complaints_eq_nil_iff.1 (complaints_eq_nil_of_ok hw hok hn hloose)
    simp [hsource] at hnil
  · obtain rfl := hlinks.eq_of_isSource hmem hsource
    exact ⟨c, hc, by rw [hlinks.ids]⟩

theorem exists_chain_of_isSink (hn : n ∈ w.nodes) (hsink : n.isSink = true) :
    ∃ c ∈ w.chains, c.write = n.id := by
  rcases loose_or_member hw hn with hloose | ⟨c, hc, r, s, f, hlinks, hmem⟩
  · have hnil := complaints_eq_nil_iff.1 (complaints_eq_nil_of_ok hw hok hn hloose)
    simp [hsink] at hnil
  · obtain rfl := hlinks.eq_of_isSink hmem hsink
    exact ⟨c, hc, by rw [hlinks.ids]⟩

theorem objection_eq_none_of_ok (hn : n ∈ w.nodes) : n.objection options = none := by
  rcases loose_or_member hw hn with hloose | ⟨c, hc, r, s, f, hlinks, hmem⟩
  · exact (complaints_eq_nil_iff.1 (complaints_eq_nil_of_ok hw hok hn hloose)).1
  · exact firstObjection_eq_none_iff.1 (firstObjection_eq_none_of_ok hw hok hc hlinks) n hmem

end NoErrors

theorem compilable_of_compile (h : w.compile options = .ok p) : w.Compilable options := by
  obtain ⟨hfaults, hgather, -⟩ := compile_eq_ok_iff.1 h
  have hvalid : w.validate.isValid = true := isValid_validate_iff.2 hfaults
  have hw := distinct_of_isValid hvalid
  have hok : ∀ n ∈ w.nodes, ∀ xs, w.assign w.chains options n ≠ .error xs := fun n hn _ =>
    ne_error_of_gather_eq_ok (fun m hm => assign_ne_error_nil hw hm) hgather hn
  exact ⟨hvalid, fun n => exists_chain_of_isSource hw hok, fun n => exists_chain_of_isSink hw hok,
    fun n => objection_eq_none_of_ok hw hok⟩

/-! ## From the conditions to the plan -/

namespace Compilable

/-- Sources and sinks are chained, so that a loose node is neither. -/
theorem complaints_eq_nil (h : w.Compilable options) (hn : n ∈ w.nodes) (hloose : w.Loose n) :
    complaints options n = [] := by
  refine complaints_eq_nil_iff.2 ⟨h.accepted n hn, ?_, ?_⟩
  · rw [← Bool.not_eq_true]
    intro hsource
    obtain ⟨c, hc, hread⟩ := h.sources n hn hsource
    exact hloose c hc (by simp [Chain.members, hread])
  · rw [← Bool.not_eq_true]
    intro hsink
    obtain ⟨c, hc, hwrite⟩ := h.sinks n hn hsink
    exact hloose c hc (by simp [Chain.members, hwrite])

theorem exists_assigned (h : w.Compilable options) (hn : n ∈ w.nodes) (hown : n.ownsTask = true) :
    ∃ a, w.assign w.chains options n = .ok (some a) ∧ w.Assigned options n a := by
  have hw := distinct_of_isValid h.valid
  rcases loose_or_member hw hn with hloose | ⟨c, hc, r, s, f, hlinks, hmem⟩
  · obtain ⟨hnone, hsource, -⟩ := complaints_eq_nil_iff.1 (h.complaints_eq_nil hn hloose)
    have hown : n.hasOwnTask = true := by simpa [Node.ownsTask, hsource] using hown
    obtain ⟨t, ht, hassign⟩ := exists_task_of_loose hw hn hloose hown hnone
    exact ⟨_, hassign, .own hown ht⟩
  · have hsource : n.isSource = true := by
      simpa [Node.ownsTask, hlinks.hasOwnTask_eq_false hmem] using hown
    obtain rfl := hlinks.eq_of_isSource hmem hsource
    have hfirst : firstObjection options n s f = none :=
      firstObjection_eq_none_iff.2 fun m hm => h.accepted m (hlinks.mem_nodes hm)
    obtain ⟨t, ht, hconverts⟩ := hlinks.exists_conversion hw hfirst
    exact ⟨_, assign_read hw hc hlinks ht, .conversion hc hlinks hconverts⟩

theorem assign_eq_none (h : w.Compilable options) (hn : n ∈ w.nodes) (hown : n.ownsTask = false) :
    w.assign w.chains options n = .ok none := by
  have hw := distinct_of_isValid h.valid
  obtain ⟨hsource, hown⟩ : n.isSource = false ∧ n.hasOwnTask = false := by
    simpa [Node.ownsTask] using hown
  rcases loose_or_member hw hn with hloose | ⟨c, hc, r, s, f, hlinks, hmem⟩
  · exact assign_eq_none_of_loose hw hn hloose hown (h.complaints_eq_nil hn hloose)
  · exact assign_member hw hc hlinks hmem hsource

theorem exists_plan (h : w.Compilable options) :
    ∃ p, w.compile options = .ok p ∧
      List.Forall₂ (w.Assigned options) (w.nodes.filter (·.ownsTask)) p.assignments := by
  obtain ⟨as, has, hassigned⟩ := forall₂_gather (fun n hn => h.exists_assigned hn)
    fun n hn => h.assign_eq_none hn
  have hfaults : w.faults = [] := isValid_validate_iff.1 h.valid
  exact ⟨⟨w.dag options, as⟩, compile_eq_ok_iff.2 ⟨hfaults, has, rfl⟩, hassigned⟩

end Compilable

/-! ## Plans -/

theorem Assigned.nodeId {a : Assignment} (h : w.Assigned options n a) : a.nodeId = n.id := by
  cases h <;> rfl

theorem map_nodeId_of_assigned {ns : List Node} {as : List Assignment}
    (h : List.Forall₂ (w.Assigned options) ns as) : as.map (·.nodeId) = ns.map (·.id) := by
  induction h with
  | nil => rfl
  | cons ha _ ih => simp [ha.nodeId, ih]

/-- The tasks of a plan belong to nodes. -/
theorem exists_assigned_of_compile (h : w.compile options = .ok p) {a : Assignment}
    (ha : a ∈ p.assignments) : ∃ n ∈ w.nodes, w.Assigned options n a := by
  obtain ⟨q, hq, hassigned⟩ := (compilable_of_compile h).exists_plan
  obtain rfl : p = q := Except.ok.inj (h.symm.trans hq)
  obtain ⟨n, hn, hna⟩ := exists_left_of_forall₂ hassigned ha
  exact ⟨n, (List.mem_filter.1 hn).1, hna⟩

/-- Compilation succeeds on exactly the compilable workflows. The plan then has the DAG of the
workflow and one task for each source and each node with a task of its own, in their order. -/
theorem compile_eq_ok_spec (w : Workflow) (options : PlanOptions) :
    ((∃ p, w.compile options = .ok p) ↔ w.Compilable options) ∧
      ∀ p, w.compile options = .ok p →
        p.dag = w.dag options ∧ (p.assignments.map (·.nodeId)).Nodup ∧
          List.Forall₂ (w.Assigned options) (w.nodes.filter (·.ownsTask)) p.assignments := by
  refine ⟨⟨?_, fun h => ?_⟩, fun p hp => ?_⟩
  · rintro ⟨p, hp⟩
    exact compilable_of_compile hp
  · obtain ⟨p, hp, -⟩ := h.exists_plan
    exact ⟨p, hp⟩
  · have h := compilable_of_compile hp
    obtain ⟨q, hq, hassigned⟩ := h.exists_plan
    obtain rfl : p = q := Except.ok.inj (hp.symm.trans hq)
    refine ⟨(compile_eq_ok_iff.1 hp).2.2, ?_, hassigned⟩
    rw [map_nodeId_of_assigned hassigned]
    exact (distinct_of_isValid h.valid).sublist (List.filter_sublist.map _)

theorem compile_transfer :
    (transfer "csv").Compilable {} ∧ ∃ p, (transfer "csv").compile {} = .ok p ∧
      List.Forall₂ ((transfer "csv").Assigned {}) ((transfer "csv").nodes.filter (·.ownsTask))
        p.assignments := by
  have hok : ∃ p, (transfer "csv").compile {} = .ok p := ⟨_, rfl⟩
  refine ⟨(compile_eq_ok_spec _ _).1.1 hok, hok.imp fun p hp => ⟨hp, ?_⟩⟩
  exact ((compile_eq_ok_spec _ _).2 p hp).2.2

end Workflow

end DataPipeline
