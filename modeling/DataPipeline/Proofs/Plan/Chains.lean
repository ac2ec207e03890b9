import DataPipeline.Plan.Chain
import DataPipeline.Proofs.Task.Roles
import DataPipeline.Proofs.Workflow.Lookup
import Mathlib.Data.Option.Basic

/-!
# The nodes of a chain

A chain is found from its source, and each id in it finds a node that plays its role. Where no id
repeats, a source therefore has at most one chain, and the ids of a chain name its nodes alone.

## Main definitions

* `Workflow.Links`: the nodes that a chain names, each in its role

## Main results

* `Workflow.chainFrom_eq_some_iff`: the two forms of a chain
* `Workflow.exists_links`: every chain has such nodes
* `Workflow.eq_of_read_eq`: a source has at most one chain
* `Workflow.Links.eq_of_isSource` and its like: the role of a node tells its place in a chain
-/
namespace DataPipeline.Workflow

variable {w : Workflow} {c d : Chain} {id : String} {n r s : Node} {f : Option Node}

/-! ## Following connections -/

theorem mem_of_soleSuccessor (h : w.soleSuccessor id = some n) : n ∈ w.nodes := by
  rw [soleSuccessor] at h
  split at h
  · exact (node_eq_some h).1
  · cases h

/-- The chain leads from `r` to `s`, through `f` if that is a node. -/
structure Links (w : Workflow) (c : Chain) (r s : Node) (f : Option Node) : Prop where
  ids : c = ⟨r.id, s.id, f.map (·.id)⟩
  read : r ∈ w.nodes
  write : s ∈ w.nodes
  filter : ∀ m ∈ f, m ∈ w.nodes
  isSource : r.isSource = true
  isSink : s.isSink = true
  isFilter : ∀ m ∈ f, m.isFilter = true

/-- The only way on from a source leads to a sink, or to a filter and from there to a sink. -/
theorem chainFrom_eq_some_iff :
    w.chainFrom r = some c ↔
      (∃ s, w.soleSuccessor r.id = some s ∧ s.isSink = true ∧ c = ⟨r.id, s.id, none⟩) ∨
        ∃ m s, w.soleSuccessor r.id = some m ∧ m.isFilter = true ∧
          w.soleSuccessor m.id = some s ∧ s.isSink = true ∧ c = ⟨r.id, s.id, some m.id⟩ := by
  constructor
  · intro h
    rw [chainFrom] at h
    obtain ⟨next, hnext, h⟩ := Option.bind_eq_some_iff.1 h
    by_cases hsink : next.isSink = true
    · rw [if_pos hsink] at h
      exact .inl ⟨next, hnext, hsink, (Option.some.inj h).symm⟩
    · rw [if_neg hsink] at h
      obtain ⟨_, hguard, h⟩ := Option.bind_eq_some_iff.1 h
      obtain ⟨sink, hs, h⟩ := Option.bind_eq_some_iff.1 h
      obtain ⟨_, hguard', h⟩ := Option.bind_eq_some_iff.1 h
      have hfilter : next.isFilter = true := (Option.guard_eq_some' _).1 hguard
      have hsink : sink.isSink = true := (Option.guard_eq_some' _).1 hguard'
      exact .inr ⟨next, sink, hnext, hfilter, hs, hsink, (Option.some.inj h).symm⟩
  · rintro (⟨s, hs, hsink, rfl⟩ | ⟨m, s, hm, hfilter, hs, hsink, rfl⟩)
    · rw [chainFrom, hs]
      exact if_pos hsink
    · have hnot : ¬ m.isSink = true := Bool.eq_false_iff.1 (Node.plays_only .filter hfilter .sink)
      rw [chainFrom, hm]
      refine (if_neg hnot).trans (Option.bind_eq_some_iff.2 ⟨(), ?_, ?_⟩)
      · exact (Option.guard_eq_some' _).2 hfilter
      · refine Option.bind_eq_some_iff.2 ⟨s, hs, Option.bind_eq_some_iff.2 ⟨(), ?_, rfl⟩⟩
        exact (Option.guard_eq_some' _).2 hsink

theorem links_of_chainFrom (hr : r ∈ w.nodes) (hsource : r.isSource = true)
    (h : w.chainFrom r = some c) : ∃ s f, w.Links c r s f := by
  rcases chainFrom_eq_some_iff.1 h with ⟨s, hs, hsink, hc⟩ | ⟨m, s, hm, hfilter, hs, hsink, hc⟩
  · exact ⟨s, none, hc, hr, mem_of_soleSuccessor hs, by simp, hsource, hsink, by simp⟩
  · refine ⟨s, some m, hc, hr, mem_of_soleSuccessor hs, ?_, hsource, hsink, ?_⟩
    · simpa using mem_of_soleSuccessor hm
    · simpa using hfilter

theorem mem_chains_iff :
    c ∈ w.chains ↔ ∃ n ∈ w.nodes, n.isSource = true ∧ w.chainFrom n = some c := by
  simp [chains, and_assoc]

theorem exists_links (hc : c ∈ w.chains) : ∃ r s f, w.Links c r s f := by
  obtain ⟨r, hr, hsource, h⟩ := mem_chains_iff.1 hc
  exact ⟨r, links_of_chainFrom hr hsource h⟩

/-! ## Chains by their source -/

theorem eq_of_read_eq (hw : w.ids.Nodup) (hc : c ∈ w.chains) (hd : d ∈ w.chains)
    (h : c.read = d.read) : c = d := by
  obtain ⟨m, hm, hms, hmc⟩ := mem_chains_iff.1 hc
  obtain ⟨n, hn, hns, hnd⟩ := mem_chains_iff.1 hd
  obtain ⟨_, _, hlc⟩ := links_of_chainFrom hm hms hmc
  obtain ⟨_, _, hld⟩ := links_of_chainFrom hn hns hnd
  have hid : m.id = n.id := by
    rw [hlc.ids, hld.ids] at h
    exact h
  rw [eq_of_id_eq hw hm hn hid] at hmc
  exact Option.some.inj (hmc.symm.trans hnd)

/-- Looking for a chain by its source, in whatever order, finds the only one. -/
theorem find?_chains_eq_some_iff (hw : w.ids.Nodup) :
    w.chains.reverse.find? (·.read = id) = some c ↔ c ∈ w.chains ∧ c.read = id := by
  constructor
  · intro h
    exact ⟨List.mem_reverse.1 (List.mem_of_find?_eq_some h), by simpa using List.find?_some h⟩
  · rintro ⟨hc, rfl⟩
    cases hfind : w.chains.reverse.find? (·.read = c.read) with
    | none =>
      have hmem : c ∈ w.chains.reverse := List.mem_reverse.2 hc
      simpa using List.find?_eq_none.1 hfind c hmem
    | some d =>
      have hd : d ∈ w.chains := List.mem_reverse.1 (List.mem_of_find?_eq_some hfind)
      have hread : d.read = c.read := by simpa using List.find?_some hfind
      rw [eq_of_read_eq hw hd hc hread]

/-! ## Members -/

namespace Links

/-- The nodes of a chain in the order of its members. -/
theorem members_eq (h : w.Links c r s f) : c.members = ([r, s] ++ f.toList).map (·.id) := by
  rw [h.ids]
  cases f <;> simp [Chain.members]

theorem mem_nodes (h : w.Links c r s f) (hn : n ∈ [r, s] ++ f.toList) : n ∈ w.nodes := by
  have hcases : n = r ∨ n = s ∨ f = some n := by simpa using hn
  rcases hcases with rfl | rfl | rfl
  · exact h.read
  · exact h.write
  · exact h.filter n rfl

theorem id_mem_members (h : w.Links c r s f) (hn : n ∈ [r, s] ++ f.toList) : n.id ∈ c.members :=
  h.members_eq ▸ List.mem_map_of_mem hn

theorem mem_members_iff (hw : w.ids.Nodup) (h : w.Links c r s f) (hn : n ∈ w.nodes) :
    n.id ∈ c.members ↔ n ∈ [r, s] ++ f.toList := by
  refine ⟨fun hid => ?_, h.id_mem_members⟩
  rw [h.members_eq] at hid
  obtain ⟨m, hm, hmn⟩ := List.mem_map.1 hid
  exact eq_of_id_eq hw (h.mem_nodes hm) hn hmn ▸ hm

theorem role (h : w.Links c r s f) (hn : n ∈ [r, s] ++ f.toList) :
    n = r ∧ n.isSource = true ∨ n = s ∧ n.isSink = true ∨ f = some n ∧ n.isFilter = true := by
  have hcases : n = r ∨ n = s ∨ f = some n := by simpa using hn
  rcases hcases with rfl | rfl | rfl
  · exact .inl ⟨rfl, h.isSource⟩
  · exact .inr (.inl ⟨rfl, h.isSink⟩)
  · exact .inr (.inr ⟨rfl, h.isFilter n rfl⟩)

theorem eq_of_isSource (h : w.Links c r s f) (hn : n ∈ [r, s] ++ f.toList)
    (hsource : n.isSource = true) : n = r := by
  have hsink : n.isSink = false := Node.plays_only .source hsource .sink
  have hfilter : n.isFilter = false := Node.plays_only .source hsource .filter
  simpa [hsink, hfilter] using (h.role hn).imp_left And.left

theorem eq_of_isSink (h : w.Links c r s f) (hn : n ∈ [r, s] ++ f.toList)
    (hsink : n.isSink = true) : n = s := by
  have hsource : n.isSource = false := Node.plays_only .sink hsink .source
  have hfilter : n.isFilter = false := Node.plays_only .sink hsink .filter
  simpa [hsource, hsink, hfilter] using h.role hn

theorem hasOwnTask_eq_false (h : w.Links c r s f) (hn : n ∈ [r, s] ++ f.toList) :
    n.hasOwnTask = false := by
  rcases h.role hn with ⟨-, hn⟩ | ⟨-, hn⟩ | ⟨-, hn⟩
  · exact Node.plays_only .source hn .ownTask
  · exact Node.plays_only .sink hn .ownTask
  · exact Node.plays_only .filter hn .ownTask

end Links

end DataPipeline.Workflow
