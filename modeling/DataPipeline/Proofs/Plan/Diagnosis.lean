import DataPipeline.Proofs.Plan.Compilation

/-!
# Which objections are reported

Where a valid workflow has no plan, loose nodes are reported with all that is wrong with them, but a
chain only with its first objection. An objection is therefore missing from the errors if in every
chain of its node another objection comes first.

## Main definitions

* `Chain.ahead`: the members of a chain before one of them
* `Workflow.Masked`: nodes with an earlier objection in every chain that they are part of

## Main results

* `Workflow.mem_errors_iff`: all errors of a valid workflow
* `Workflow.mem_errors_of_objection_iff`: an objection is reported unless its node is masked
-/
namespace DataPipeline

/-- The members that stand before an id. -/
def Chain.ahead (c : Chain) (id : String) : List String := c.members.takeWhile (· ≠ id)

namespace Workflow

variable {w : Workflow} {options : PlanOptions} {c : Chain} {n r s : Node} {f : Option Node}
  {e : MapError} {x : CompileError} {errors : List CompileError}

/-- The node is part of a chain, and ahead of it in each of its chains stands a node that is
objected to. -/
def Masked (w : Workflow) (options : PlanOptions) (n : Node) : Prop :=
  (∃ c ∈ w.chains, n.id ∈ c.members) ∧ ∀ c ∈ w.chains, n.id ∈ c.members →
    ∃ m ∈ w.nodes, m.id ∈ c.ahead n.id ∧ m.objection options ≠ none

/-! ## First objections -/

namespace Links

theorem mem_ahead_iff (hw : w.ids.Nodup) (h : w.Links c r s f) {m : Node} (hm : m ∈ w.nodes) :
    m.id ∈ c.ahead n.id ↔ m ∈ ([r, s] ++ f.toList).takeWhile (·.id ≠ n.id) := by
  rw [Chain.ahead, h.members_eq, List.takeWhile_map]
  refine ⟨fun hid => ?_, fun hmem => List.mem_map_of_mem hmem⟩
  obtain ⟨k, hk, hkm⟩ := List.mem_map.1 hid
  have hknodes : k ∈ w.nodes := h.mem_nodes ((List.takeWhile_subset _) hk)
  exact eq_of_id_eq hw hknodes hm hkm ▸ hk

/-- Nothing is objected to ahead of the first objection. -/
theorem objection_eq_none_of_ahead (hw : w.ids.Nodup) (h : w.Links c r s f)
    (hfirst : firstObjection options r s f = some e) (he : e.nodeId = n.id) {m : Node}
    (hm : m ∈ w.nodes) (hahead : m.id ∈ c.ahead n.id) : m.objection options = none := by
  obtain ⟨before, k, after, hsplit, hk, hbefore⟩ := firstObjection_eq_some_iff.1 hfirst
  have hid : k.id = n.id := (Node.nodeId_of_objection hk).symm.trans he
  rw [h.mem_ahead_iff hw hm, hsplit, List.takeWhile_append] at hahead
  refine hbefore m ?_
  split_ifs at hahead
  · simpa [hid] using hahead
  · exact (List.takeWhile_subset _) hahead

/-- If a node is objected to, but not first, then the first objection is ahead of it. -/
theorem exists_ahead (hw : w.ids.Nodup) (h : w.Links c r s f) (hn : n ∈ [r, s] ++ f.toList)
    (he : n.objection options = some e) (hnot : firstObjection options r s f ≠ some e) :
    ∃ m ∈ w.nodes, m.id ∈ c.ahead n.id ∧ m.objection options ≠ none := by
  cases hfirst : firstObjection options r s f with
  | none => simp [firstObjection_eq_none_iff.1 hfirst n hn] at he
  | some e' =>
    obtain ⟨before, k, after, hsplit, hk, hbefore⟩ := firstObjection_eq_some_iff.1 hfirst
    have hkmem : k ∈ w.nodes := h.mem_nodes (by simp [hsplit])
    have hkn : k ≠ n := by
      rintro rfl
      exact hnot (hfirst.trans (hk.symm.trans he))
    have hbeforen : ∀ m ∈ before, m ≠ n := by
      rintro m hm rfl
      simp [hbefore m hm] at he
    have hid : ∀ m ∈ w.nodes, m ≠ n → m.id ≠ n.id := fun m hm hmn hid =>
      hmn (eq_of_id_eq hw hm (h.mem_nodes hn) hid)
    refine ⟨k, hkmem, ?_, by simp [hk]⟩
    rw [h.mem_ahead_iff hw hkmem, hsplit, List.takeWhile_append_of_pos]
    · simp [hid k hkmem hkn]
    · intro m hm
      have hmmem : m ∈ w.nodes := h.mem_nodes (by simp [hsplit, hm])
      simpa using hid m hmmem (hbeforen m hm)

end Links

/-! ## Errors of valid workflows -/

/-- The errors are the complaints of loose nodes and the first objections in chains. -/
theorem mem_errors_iff (hvalid : w.validate.isValid = true)
    (h : w.compile options = .error errors) :
    x ∈ errors ↔ (∃ n ∈ w.nodes, w.Loose n ∧ x ∈ complaints options n) ∨
      ∃ c ∈ w.chains, ∃ r s f e, w.Links c r s f ∧ firstObjection options r s f = some e ∧
        x = .unmapped e := by
  have hw := distinct_of_isValid hvalid
  rw [mem_of_gather_eq_error (gather_eq_of_compile_eq_error hvalid h)]
  constructor
  · rintro ⟨n, hn, xs, hxs, hx⟩
    rcases (assign_eq_error_iff hw hn).1 hxs with
      ⟨hloose, rfl, -⟩ | ⟨c, hc, s, f, e, hlinks, he, rfl⟩
    · exact .inl ⟨n, hn, hloose, hx⟩
    · exact .inr ⟨c, hc, n, s, f, e, hlinks, he, List.mem_singleton.1 hx⟩
  · rintro (⟨n, hn, hloose, hx⟩ | ⟨c, hc, r, s, f, e, hlinks, he, rfl⟩)
    · have hne := List.ne_nil_of_mem hx
      exact ⟨n, hn, _, (assign_eq_error_iff hw hn).2 (.inl ⟨hloose, rfl, hne⟩), hx⟩
    · exact ⟨r, hlinks.read, _,
        (assign_eq_error_iff hw hlinks.read).2 (.inr ⟨c, hc, s, f, e, hlinks, he, rfl⟩),
        List.mem_singleton.2 rfl⟩

/-- Errors that name a node are about the node on its own or about the first objection in one of
its chains. -/
theorem not_masked_of_mem (hvalid : w.validate.isValid = true)
    (h : w.compile options = .error errors) (hn : n ∈ w.nodes) (he : n.objection options = some e)
    (hx : x ∈ errors) (hid : x.diagnostic.nodeId = some n.id) : ¬ w.Masked options n := by
  have hw := distinct_of_isValid hvalid
  rintro ⟨⟨d, hd, hnd⟩, hmasked⟩
  rcases (mem_errors_iff hvalid h).1 hx with
    ⟨m, hm, hloose, hx⟩ | ⟨c, hc, r, s, f, e', hlinks, hfirst, rfl⟩
  · have hmn : m.id = n.id := Option.some.inj ((nodeId_of_mem_complaints hx).symm.trans hid)
    exact hloose d hd (hmn ▸ hnd)
  · obtain ⟨before, k, after, hsplit, hk, -⟩ := firstObjection_eq_some_iff.1 hfirst
    have hkmem : k ∈ [r, s] ++ f.toList := by simp [hsplit]
    have hkid : k.id = n.id := (Node.nodeId_of_objection hk).symm.trans (Option.some.inj hid)
    obtain rfl := eq_of_id_eq hw (hlinks.mem_nodes hkmem) hn hkid
    obtain ⟨m, hm, hahead, hobj⟩ := hmasked c hc (hlinks.id_mem_members hkmem)
    exact hobj (hlinks.objection_eq_none_of_ahead hw hfirst (Option.some.inj hid) hm hahead)

theorem mem_errors_of_not_masked (hvalid : w.validate.isValid = true)
    (h : w.compile options = .error errors) (hn : n ∈ w.nodes) (he : n.objection options = some e)
    (hmasked : ¬ w.Masked options n) : .unmapped e ∈ errors := by
  have hw := distinct_of_isValid hvalid
  rw [mem_errors_iff hvalid h]
  by_cases hloose : w.Loose n
  · exact .inl ⟨n, hn, hloose, by simp [complaints, he]⟩
  · simp only [Loose, not_forall, not_not] at hloose
    obtain ⟨c, hc, hmem⟩ := hloose
    rw [Masked] at hmasked
    push Not at hmasked
    obtain ⟨c, hc, hmem, hnone⟩ := hmasked ⟨c, hc, hmem⟩
    obtain ⟨r, s, f, hlinks⟩ := exists_links hc
    have hn := (hlinks.mem_members_iff hw hn).1 hmem
    refine .inr ⟨c, hc, r, s, f, e, hlinks, ?_, rfl⟩
    by_contra hnot
    obtain ⟨m, hm, hahead, hobj⟩ := hlinks.exists_ahead hw hn he hnot
    exact hobj (hnone m hm hahead)

/-- An objection to a node of a valid workflow makes compilation fail. It is among the errors unless
the node is masked, and then no error names the node. -/
theorem mem_errors_of_objection_iff (hvalid : w.validate.isValid = true) (hn : n ∈ w.nodes)
    (he : n.objection options = some e) :
    ∃ errors, w.compile options = .error errors ∧ e.nodeId = n.id ∧
      (.unmapped e ∈ errors ↔ ¬ w.Masked options n) ∧
      (w.Masked options n → ∀ x ∈ errors, x.diagnostic.nodeId ≠ some n.id) := by
  have hid := Node.nodeId_of_objection he
  cases h : w.compile options with
  | ok p => simp [(compilable_of_compile h).accepted n hn] at he
  | error errors =>
    refine ⟨errors, rfl, hid, ⟨fun hmem => ?_, mem_errors_of_not_masked hvalid h hn he⟩, ?_⟩
    · exact not_masked_of_mem hvalid h hn he hmem (congrArg some hid)
    · exact fun hmasked x hx hxid => not_masked_of_mem hvalid h hn he hx hxid hmasked

theorem mem_errors_transfer :
    (transfer "exotic").validate.isValid = true ∧
      ∃ n ∈ (transfer "exotic").nodes, ∃ e, n.objection {} = some e ∧
        ∃ errors, (transfer "exotic").compile {} = .error errors ∧ e.nodeId = n.id ∧
          (.unmapped e ∈ errors ↔ ¬ (transfer "exotic").Masked {} n) ∧
          ((transfer "exotic").Masked {} n → ∀ x ∈ errors, x.diagnostic.nodeId ≠ some n.id) := by
  have hvalid : (transfer "exotic").validate.isValid = true := by decide +kernel
  have hmem : (transfer "exotic").nodes[1] ∈ (transfer "exotic").nodes := List.getElem_mem _
  have hobj : (transfer "exotic").nodes[1].objection {} =
      some (.invalidValue "in" "format" "exotic" "unsupported file format") := by decide +kernel
  exact ⟨hvalid, _, hmem, _, hobj, mem_errors_of_objection_iff hvalid hmem hobj⟩

/-- The format of the written file is objected to as well, but only that of the file read is
reported. -/
theorem compile_transfer_exotic :
    (transfer "exotic").validate.isValid = true ∧
      ∃ n ∈ (transfer "exotic").nodes, ∃ e, n.objection {} = some e ∧
        ∃ errors, (transfer "exotic").compile {} = .error errors ∧ .unmapped e ∉ errors := by
  have hvalid : (transfer "exotic").validate.isValid = true := by decide +kernel
  have hmem : (transfer "exotic").nodes[2] ∈ (transfer "exotic").nodes := List.getElem_mem _
  have hobj : (transfer "exotic").nodes[2].objection {} =
      some (.invalidValue "out" "format" "exotic" "unsupported file format") := by decide +kernel
  refine ⟨hvalid, _, hmem, _, hobj,
    [.unmapped (.invalidValue "in" "format" "exotic" "unsupported file format")], ?_, by decide⟩
  refine compile_eq_error_iff.2 (.inr ⟨isValid_validate_iff.1 hvalid, ?_⟩)
  rw [gather_eq, if_neg (by decide +kernel)]
  exact congrArg _ (by decide +kernel)

end Workflow

end DataPipeline
