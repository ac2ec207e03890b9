import DataPipeline.Proofs.Plan.Compilation
import DataPipeline.Proofs.Plan.Sequencing
import DataPipeline.Proofs.Validation.Reordering

/-!
# Compilation without an order

The order in which a workflow was drawn decides in which order its faults, tasks and entries are
listed, and nothing else. Look-ups take the first match, but a workflow that is looked into has
distinct ids, and then there is only one.

## Main definitions

* `Dag.Entry.Same`, `Dag.Rearranged`: entries and DAGs that differ in the order of ids and entries
* `Plan.Agrees`: plans with the same tasks and rearranged DAGs

## Main results

* `find?_key_eq_of_perm`: what is found by a key that does not repeat
* `Workflow.Reordered.assign`: nodes contribute the same
* `Workflow.compile_agrees_of_reordered`: validation and compilation of a reordered workflow
-/
namespace DataPipeline

/-! ## Look-ups -/

section FindByKey

variable {α β : Type} [DecidableEq β] {key : α → β} {as bs : List α}

theorem find?_key_eq_some_iff (hkeys : (as.map key).Nodup) {k : β} {a : α} :
    as.find? (key · = k) = some a ↔ a ∈ as ∧ key a = k := by
  constructor
  · intro h
    exact ⟨List.mem_of_find?_eq_some h, by simpa using List.find?_some h⟩
  · rintro ⟨ha, rfl⟩
    cases hfind : as.find? (key · = key a) with
    | none => simpa using List.find?_eq_none.1 hfind a ha
    | some b =>
      have hb : key b = key a := by simpa using List.find?_some hfind
      rw [List.inj_on_of_nodup_map hkeys (List.mem_of_find?_eq_some hfind) ha hb]

/-- Where no key repeats, looking for one does not depend on the order. -/
theorem find?_key_eq_of_perm (h : as.Perm bs) (hkeys : (as.map key).Nodup) (k : β) :
    as.find? (key · = k) = bs.find? (key · = k) := by
  refine Option.ext fun a => ?_
  rw [find?_key_eq_some_iff hkeys, find?_key_eq_some_iff ((h.map key).nodup_iff.1 hkeys),
    h.mem_iff]

end FindByKey

/-! ## DAGs and plans -/

/-- Entries of one node with the same next ids. -/
structure Dag.Entry.Same (e e' : Dag.Entry) : Prop where
  id : e.id = e'.id
  kind : e.kind = e'.kind
  configId : e.configId = e'.configId
  next : ∀ id, id ∈ e.next ↔ id ∈ e'.next

/-- Up to the order of entries and next ids the DAGs are the same. -/
structure Dag.Rearranged (d d' : Dag) : Prop where
  dagId : d.dagId = d'.dagId
  name : d.name = d'.name
  schedule : d.schedule = d'.schedule
  active : d.active = d'.active
  entries : ∃ es, es.Perm d'.entries ∧ List.Forall₂ Entry.Same d.entries es

/-- Each node has the same task in both plans, and the DAGs are the same up to order. -/
structure Plan.Agrees (p q : Plan) : Prop where
  tasks : ∀ id, p.assignmentOf id = q.assignmentOf id
  dag : p.dag.Rearranged q.dag

namespace Workflow

/-! ## Gathering -/

/-- Gathering from reordered items has the same outcome in another order. -/
theorem gather_perm {ε α β : Type} (f : α → Except (List ε) (Option β)) {as bs : List α}
    (h : as.Perm bs) :
    (∃ xs ys, gather f as = .ok xs ∧ gather f bs = .ok ys ∧ xs.Perm ys) ∨
      ∃ es es', gather f as = .error es ∧ gather f bs = .error es' ∧ es.Perm es' := by
  have herrors := h.flatMap_right fun a => errorsOf (f a)
  by_cases hnil : as.flatMap (fun a => errorsOf (f a)) = []
  · have hnil' := List.perm_nil.1 (hnil ▸ herrors.symm)
    refine .inl ⟨_, _, by rw [gather_eq, if_pos hnil], by rw [gather_eq, if_pos hnil'], ?_⟩
    exact h.filterMap _
  · have hnil' : bs.flatMap (fun a => errorsOf (f a)) ≠ [] := fun hbs =>
      hnil (List.perm_nil.1 (hbs ▸ herrors))
    exact .inr ⟨_, _, by rw [gather_eq, if_neg hnil], by rw [gather_eq, if_neg hnil'], herrors⟩

variable {w w' : Workflow} {options : PlanOptions} {p q : Plan}

namespace Reordered

/-! ## Chains and contributions -/

theorem node (h : w.Reordered w') (hw : w.ids.Nodup) (id : String) : w.node id = w'.node id :=
  find?_key_eq_of_perm h.nodes hw id

theorem soleSuccessor (h : w.Reordered w') (hw : w.ids.Nodup) (id : String) :
    w.soleSuccessor id = w'.soleSuccessor id := by
  have hout := h.connections.filter (·.source = id)
  refine Option.ext fun n => ?_
  rw [soleSuccessor_eq_some_iff, soleSuccessor_eq_some_iff]
  refine exists_congr fun c => and_congr ?_ (by rw [h.node hw])
  rw [← List.perm_singleton, ← List.perm_singleton]
  exact ⟨hout.symm.trans, hout.trans⟩

theorem chains (h : w.Reordered w') (hw : w.ids.Nodup) : w.chains.Perm w'.chains := by
  have hfrom : w.chainFrom = w'.chainFrom := by
    funext n
    simp only [chainFrom, h.soleSuccessor hw]
  rw [Workflow.chains, Workflow.chains, hfrom]
  exact (h.nodes.filter _).filterMap _

theorem conversion (h : w.Reordered w') (hw : w.ids.Nodup) (c : Chain) :
    w.conversion options c = w'.conversion options c := by
  simp only [Workflow.conversion, chainMember, h.node hw]

theorem assign (h : w.Reordered w') (hw : w.ids.Nodup) (n : Node) :
    w.assign w.chains options n = w'.assign w'.chains options n := by
  have hw' : w'.ids.Nodup := h.ids.nodup_iff.1 hw
  have hfind : w.chains.reverse.find? (·.read = n.id) =
      w'.chains.reverse.find? (·.read = n.id) := by
    refine Option.ext fun c => ?_
    rw [find?_chains_eq_some_iff hw, find?_chains_eq_some_iff hw', (h.chains hw).mem_iff]
  simp only [Workflow.assign, hfind, (h.chains hw).any_eq, h.conversion hw]

/-! ## DAGs -/

theorem dag (h : w.Reordered w') (hw : w.ids.Nodup) (options : PlanOptions) :
    (w.dag options).Rearranged (w'.dag options) := by
  refine ⟨rfl, rfl, rfl, rfl, w.nodes.map fun n => ⟨n.id, n.kind, n.configId, w'.next n.id⟩, ?_, ?_⟩
  · rw [Workflow.dag, dagEntries_eq (h.ids.nodup_iff.1 hw)]
    exact h.nodes.map _
  · rw [Workflow.dag, dagEntries_eq hw, List.forall₂_map_left_iff, List.forall₂_map_right_iff,
      List.forall₂_same]
    refine fun n _ => ⟨rfl, rfl, rfl, fun id => ?_⟩
    rw [mem_next_iff, mem_next_iff, h.ids.mem_iff, Connects, Connects, h.connections.mem_iff]

/-! ## Plans -/

theorem nodup_nodeIds (h : w.compile options = .ok p) : (p.assignments.map (·.nodeId)).Nodup := by
  have hcompilable := compilable_of_compile h
  obtain ⟨q, hq, hassigned⟩ := hcompilable.exists_plan
  obtain rfl := Except.ok.inj (h.symm.trans hq)
  rw [map_nodeId_of_assigned hassigned]
  exact (distinct_of_isValid hcompilable.valid).sublist (List.filter_sublist.map _)

theorem compile_of_faults_eq_nil (h : w.Reordered w') (hfaults : w.faults = []) :
    (∃ es es', w.compile options = .error es ∧ w'.compile options = .error es' ∧ es.Perm es') ∨
      ∃ p q, w.compile options = .ok p ∧ w'.compile options = .ok q ∧ p.Agrees q := by
  have hfaults' : w'.faults = [] := List.perm_nil.1 (hfaults ▸ h.faults.symm)
  have hw : w.ids.Nodup := distinct_of_isValid (isValid_validate_iff.2 hfaults)
  have hassign : w.assign w.chains options = w'.assign w'.chains options := funext (h.assign hw)
  rcases gather_perm (w.assign w.chains options) h.nodes with
    ⟨as, bs, has, hbs, hperm⟩ | ⟨es, es', hes, hes', hperm⟩
  · have hp : w.compile options = .ok ⟨w.dag options, as⟩ :=
      compile_eq_ok_iff.2 ⟨hfaults, has, rfl⟩
    have hq : w'.compile options = .ok ⟨w'.dag options, bs⟩ :=
      compile_eq_ok_iff.2 ⟨hfaults', hassign ▸ hbs, rfl⟩
    refine .inr ⟨_, _, hp, hq, fun id => ?_, h.dag hw options⟩
    exact find?_key_eq_of_perm hperm (nodup_nodeIds hp) id
  · refine .inl ⟨es, es', compile_eq_error_iff.2 (.inr ⟨hfaults, hes⟩),
      compile_eq_error_iff.2 (.inr ⟨hfaults', hassign ▸ hes'⟩), hperm⟩

end Reordered

/-- Validation reports the same diagnostics for a reordered workflow. Compilation either fails for
both with the same errors or gives plans that agree. -/
theorem compile_agrees_of_reordered (h : w.Reordered w') (options : PlanOptions) :
    w.validate.errors.Perm w'.validate.errors ∧
      ((∃ es es', w.compile options = .error es ∧ w'.compile options = .error es' ∧ es.Perm es') ∨
        ∃ p q, w.compile options = .ok p ∧ w'.compile options = .ok q ∧ p.Agrees q) := by
  refine ⟨h.faults.map _, ?_⟩
  by_cases hfaults : w.faults = []
  · exact h.compile_of_faults_eq_nil hfaults
  · have hfaults' : w'.faults ≠ [] := fun hnil =>
      hfaults (List.perm_nil.1 (hnil ▸ h.faults))
    exact .inl ⟨_, _, compile_eq_error_iff.2 (.inl ⟨hfaults, rfl⟩),
      compile_eq_error_iff.2 (.inl ⟨hfaults', rfl⟩), h.faults.map _⟩

/-- The workflow drawn the other way round. -/
def reversed (w : Workflow) : Workflow := ⟨w.nodes.reverse, w.connections.reverse⟩

theorem compile_agrees_transfer :
    (transfer "csv").Reordered (transfer "csv").reversed ∧
      ∃ p q, (transfer "csv").compile {} = .ok p ∧ (transfer "csv").reversed.compile {} = .ok q ∧
        p.Agrees q := by
  have h : (transfer "csv").Reordered (transfer "csv").reversed :=
    ⟨(List.reverse_perm _).symm, (List.reverse_perm _).symm⟩
  obtain ⟨p, hp⟩ : ∃ p, (transfer "csv").compile {} = .ok p := ⟨_, rfl⟩
  rcases (compile_agrees_of_reordered h {}).2 with ⟨es, es', hes, -, -⟩ | hplans
  · rw [hp] at hes
    cases hes
  · exact ⟨h, hplans⟩

end Workflow

end DataPipeline
