import DataPipeline.Proofs.Plan.Conversions

/-!
# What nodes contribute

A source answers for the chain that it starts, and the other nodes of a chain contribute nothing.
A loose node answers for itself: with a task if it has one, and otherwise with what is wrong.

## Main definitions

* `Workflow.Loose`: a node that no chain has
* `Workflow.complaints`: what is wrong with such a node

## Main results

* `Workflow.assign_read`, `Workflow.assign_member`, `Workflow.assign_of_loose`: the three cases
* `Workflow.assign_eq_error_iff`: the nodes that fail, and their errors
-/
namespace DataPipeline.Workflow

variable {w : Workflow} {options : PlanOptions} {c : Chain} {n r s : Node} {f : Option Node}
  {e : MapError} {x : CompileError} {xs : List CompileError}

/-- No chain has the node. -/
def Loose (w : Workflow) (n : Node) : Prop := ∀ c ∈ w.chains, n.id ∉ c.members

theorem any_members_iff :
    (w.chains.any (·.members.contains n.id)) = true ↔ ∃ c ∈ w.chains, n.id ∈ c.members := by
  simp

theorem loose_or_member (hw : w.ids.Nodup) (hn : n ∈ w.nodes) :
    w.Loose n ∨ ∃ c ∈ w.chains, ∃ r s f, w.Links c r s f ∧ n ∈ [r, s] ++ f.toList := by
  by_cases hloose : w.Loose n
  · exact .inl hloose
  · rw [Loose] at hloose
    push Not at hloose
    obtain ⟨c, hc, hmem⟩ := hloose
    obtain ⟨r, s, f, hlinks⟩ := exists_links hc
    exact .inr ⟨c, hc, r, s, f, hlinks, (hlinks.mem_members_iff hw hn).1 hmem⟩

/-! ## The three cases -/

/-- The chain of a source is looked up by its id. -/
theorem assign_read (hw : w.ids.Nodup) (hc : c ∈ w.chains) (h : w.Links c n s f) {t : Conversion}
    (ht : w.conversion options c = .ok t) :
    w.assign w.chains options n = .ok (some (.ofNode n (.conversion t))) := by
  have hread : c.read = n.id := by rw [h.ids]
  simp only [assign, (find?_chains_eq_some_iff hw).2 ⟨hc, hread⟩, ht]

theorem assign_read_error (hw : w.ids.Nodup) (hc : c ∈ w.chains) (h : w.Links c n s f)
    (hx : w.conversion options c = .error x) : w.assign w.chains options n = .error [x] := by
  have hread : c.read = n.id := by rw [h.ids]
  simp only [assign, (find?_chains_eq_some_iff hw).2 ⟨hc, hread⟩, hx]

theorem find?_chains_eq_none (hw : w.ids.Nodup) (hn : n ∈ w.nodes)
    (hread : ∀ c ∈ w.chains, ∀ s f, ¬ w.Links c n s f) :
    w.chains.reverse.find? (·.read = n.id) = none := by
  cases hfind : w.chains.reverse.find? (·.read = n.id) with
  | none => rfl
  | some c =>
    obtain ⟨hc, hid⟩ := (find?_chains_eq_some_iff hw).1 hfind
    obtain ⟨r, s, f, hlinks⟩ := exists_links hc
    have hrn : r = n := eq_of_id_eq hw hlinks.read hn (by rw [← hid, hlinks.ids])
    exact absurd (hrn ▸ hlinks) (hread c hc s f)

theorem assign_member (hw : w.ids.Nodup) (hc : c ∈ w.chains) (h : w.Links c r s f)
    (hn : n ∈ [r, s] ++ f.toList) (hsource : n.isSource = false) :
    w.assign w.chains options n = .ok none := by
  have hfind : w.chains.reverse.find? (·.read = n.id) = none :=
    find?_chains_eq_none hw (h.mem_nodes hn) fun d _ s f hlinks => by
      simp [hlinks.isSource] at hsource
  rw [assign, hfind]
  simp only [any_members_iff.2 ⟨c, hc, h.id_mem_members hn⟩, if_true]

/-- To a loose node it makes no difference which chains there are. -/
theorem assign_of_loose (hw : w.ids.Nodup) (hn : n ∈ w.nodes) (hloose : w.Loose n) :
    w.assign w.chains options n = w.assign [] options n := by
  have hfind : w.chains.reverse.find? (·.read = n.id) = none :=
    find?_chains_eq_none hw hn fun c hc s f hlinks =>
      hloose c hc (hlinks.id_mem_members (by simp))
  have hany : w.chains.any (·.members.contains n.id) = false := by
    rw [← Bool.not_eq_true, any_members_iff]
    rintro ⟨c, hc, hmem⟩
    exact hloose c hc hmem
  simp only [assign, hfind, hany, List.reverse_nil, List.find?_nil, List.any_nil,
    Bool.false_eq_true, if_false]

/-! ## Loose nodes -/

/-- What is wrong with a loose node: an objection to its settings, and that no chain has it. -/
def complaints (options : PlanOptions) (n : Node) : List CompileError :=
  (n.objection options).toList.map .unmapped ++
    if n.isSource || n.isSink then [.unchained n.kind n.id n.label] else []

theorem complaints_eq_nil_iff :
    complaints options n = [] ↔
      n.objection options = none ∧ n.isSource = false ∧ n.isSink = false := by
  simp [complaints]

/-- Of the three mappers only the one of its role objects to a node. -/
theorem strayErrors_eq (options : PlanOptions) (hown : n.hasOwnTask = false) :
    strayErrors n = complaints options n := by
  by_cases hsource : n.isSource = true
  · have hsink : n.isSink = false := Node.plays_only .source hsource .sink
    have hfilter : n.isFilter = false := Node.plays_only .source hsource .filter
    rw [complaints, Node.objection, Node.complaint_of_isSource hsource]
    cases hinput : n.conversionInput <;>
      simp [strayErrors, MapError.ofResult, hinput, hsource,
        Node.conversionOutput_of_not_isSink hsink, Node.clauses_of_not_isFilter hfilter]
  by_cases hsink : n.isSink = true
  · have hsource : n.isSource = false := Node.plays_only .sink hsink .source
    have hfilter : n.isFilter = false := Node.plays_only .sink hsink .filter
    rw [complaints, Node.objection, Node.complaint_of_isSink hsink]
    cases houtput : n.conversionOutput <;>
      simp [strayErrors, MapError.ofResult, houtput, hsink,
        Node.conversionInput_of_not_isSource hsource, Node.clauses_of_not_isFilter hfilter]
  rw [Bool.not_eq_true] at hsource hsink
  have hinput := Node.conversionInput_of_not_isSource hsource
  have houtput := Node.conversionOutput_of_not_isSink hsink
  by_cases hfilter : n.isFilter = true
  · rw [complaints, Node.objection, Node.complaint_of_isFilter hfilter]
    cases hclauses : n.clauses <;>
      simp [strayErrors, MapError.ofResult, hinput, houtput, hclauses, hsource, hsink]
  · rw [Bool.not_eq_true] at hfilter
    rw [complaints, Node.objection, Node.complaint_of_no_role hsource hsink hfilter,
      Node.task_of_not_hasOwnTask hown]
    simp [strayErrors, MapError.ofResult, hinput, houtput, Node.clauses_of_not_isFilter hfilter,
      hsource, hsink]

theorem assign_of_complaints (hw : w.ids.Nodup) (hn : n ∈ w.nodes) (hloose : w.Loose n)
    (hne : complaints options n ≠ []) :
    w.assign w.chains options n = .error (complaints options n) := by
  rw [assign_of_loose hw hn hloose]
  by_cases hown : n.hasOwnTask = true
  · have hsource : n.isSource = false := Node.plays_only .ownTask hown .source
    have hsink : n.isSink = false := Node.plays_only .ownTask hown .sink
    rw [complaints, Node.objection, Node.complaint_of_hasOwnTask hown] at hne ⊢
    rcases htask : n.task options options.dagId with e | _ | t
    · simp [assign, htask, MapError.ofResult, hsource, hsink]
    · exact absurd htask (Node.task_ne_none hown _)
    · simp [htask, MapError.ofResult, hsource, hsink] at hne
  · rw [Bool.not_eq_true] at hown
    cases hcomplaints : complaints options n with
    | nil => exact absurd hcomplaints hne
    | cons x xs =>
      simp [assign, Node.task_of_not_hasOwnTask hown, strayErrors_eq options hown, hcomplaints]

theorem exists_task_of_loose (hw : w.ids.Nodup) (hn : n ∈ w.nodes) (hloose : w.Loose n)
    (hown : n.hasOwnTask = true) (hnone : n.objection options = none) :
    ∃ t, n.task options options.dagId = .ok (some t) ∧
      w.assign w.chains options n = .ok (some (.ofNode n t)) := by
  obtain ⟨t, ht⟩ := Node.exists_task hown hnone
  refine ⟨t, ht, ?_⟩
  rw [assign_of_loose hw hn hloose]
  simp [assign, ht]

theorem assign_eq_none_of_loose (hw : w.ids.Nodup) (hn : n ∈ w.nodes) (hloose : w.Loose n)
    (hown : n.hasOwnTask = false) (hnil : complaints options n = []) :
    w.assign w.chains options n = .ok none := by
  rw [assign_of_loose hw hn hloose]
  simp [assign, Node.task_of_not_hasOwnTask hown, strayErrors_eq options hown, hnil]

theorem assign_ne_error_of_loose (hw : w.ids.Nodup) (hn : n ∈ w.nodes) (hloose : w.Loose n)
    (hnil : complaints options n = []) : w.assign w.chains options n ≠ .error xs := by
  by_cases hown : n.hasOwnTask = true
  · obtain ⟨t, -, ht⟩ := exists_task_of_loose hw hn hloose hown (complaints_eq_nil_iff.1 hnil).1
    simp [ht]
  · rw [Bool.not_eq_true] at hown
    simp [assign_eq_none_of_loose hw hn hloose hown hnil]

theorem nodeId_of_mem_complaints (hx : x ∈ complaints options n) :
    x.diagnostic.nodeId = some n.id := by
  rcases List.mem_append.1 hx with hx | hx
  · obtain ⟨e, he, rfl⟩ := List.mem_map.1 hx
    exact congrArg some (Node.nodeId_of_objection (Option.mem_toList.1 he))
  · split_ifs at hx
    · obtain rfl := List.mem_singleton.1 hx
      rfl
    · cases hx

/-! ## Errors -/

/-- Errors are complaints of loose nodes and first objections in chains. -/
theorem assign_eq_error_iff (hw : w.ids.Nodup) (hn : n ∈ w.nodes) :
    w.assign w.chains options n = .error xs ↔
      (w.Loose n ∧ xs = complaints options n ∧ xs ≠ []) ∨
        ∃ c ∈ w.chains, ∃ s f e, w.Links c n s f ∧ firstObjection options n s f = some e ∧
          xs = [.unmapped e] := by
  constructor
  · intro h
    rcases loose_or_member hw hn with hloose | ⟨c, hc, r, s, f, hlinks, hmem⟩
    · refine .inl ⟨hloose, ?_⟩
      by_cases hnil : complaints options n = []
      · exact absurd h (assign_ne_error_of_loose hw hn hloose hnil)
      · rw [assign_of_complaints hw hn hloose hnil] at h
        obtain rfl := Except.error.inj h
        exact ⟨rfl, hnil⟩
    · by_cases hsource : n.isSource = true
      · obtain rfl := hlinks.eq_of_isSource hmem hsource
        refine .inr ⟨c, hc, s, f, ?_⟩
        cases hfirst : firstObjection options n s f with
        | none =>
          obtain ⟨t, ht, -⟩ := hlinks.exists_conversion hw hfirst
          rw [assign_read hw hc hlinks ht] at h
          cases h
        | some e =>
          have hx := hlinks.conversion_of_firstObjection hw hfirst
          rw [assign_read_error hw hc hlinks hx] at h
          exact ⟨e, hlinks, rfl, (Except.error.inj h).symm⟩
      · rw [Bool.not_eq_true] at hsource
        rw [assign_member hw hc hlinks hmem hsource] at h
        cases h
  · rintro (⟨hloose, rfl, hne⟩ | ⟨c, hc, s, f, e, hlinks, hfirst, rfl⟩)
    · exact assign_of_complaints hw hn hloose hne
    · have hx := hlinks.conversion_of_firstObjection hw hfirst
      exact assign_read_error hw hc hlinks hx

/-- A node does not fail without saying why. -/
theorem assign_ne_error_nil (hw : w.ids.Nodup) (hn : n ∈ w.nodes) :
    w.assign w.chains options n ≠ .error [] := by
  intro h
  rcases (assign_eq_error_iff hw hn).1 h with ⟨-, -, hne⟩ | ⟨_, _, _, _, _, _, _, hcons⟩
  · exact hne rfl
  · cases hcons

end DataPipeline.Workflow
