import DataPipeline.Proofs.Catalogue.Inheritance
import DataPipeline.Proofs.Results
import DataPipeline.Proofs.Workflow.Runs

/-!
# Rebuilding a workflow

A well-drawn workflow is rebuilt from nothing by adding its nodes and then making its connections,
each in any order. A batch of connections goes through exactly if it neither dangles nor repeats nor
closes a cycle once all of it is there, so the order in which it is made does not matter.

On the way nodes may take over paths. A path that is taken over is not blank, so a node does so at
most once, and what a node leaves behind does not depend on what it took over.

## Main definitions

* `Workflow.applyAll`: a sequence of edits of which none may be rejected
* `Workflow.Accepts`: what is asked of a batch of connections
* `Workflow.Filled`: a node that may have taken over a path

## Main results

* `Workflow.exists_applyAll_iff`: the batches that go through
* `Workflow.forall₂_filled_of_applyAll`: what a batch does to the nodes
* `Workflow.rebuilds_in_any_order`
-/
namespace DataPipeline

open Relation

/-- The edit that makes a connection. -/
def Connection.edit (c : Connection) : Edit := .connect c.source c.target

namespace Workflow

variable {w w' : Workflow} {a b : String} {c : Connection} {cs cs' : List Connection}

/-- The workflow after edits of which none is rejected. -/
def applyAll (w : Workflow) (es : List Edit) : Except EditError Workflow := es.foldlM apply w

@[simp] theorem applyAll_nil : w.applyAll [] = .ok w := rfl

theorem applyAll_cons_eq_ok_iff {e : Edit} {es : List Edit} :
    w.applyAll (e :: es) = .ok w' ↔ ∃ v, w.apply e = .ok v ∧ v.applyAll es = .ok w' := by
  rw [applyAll, List.foldlM_cons]
  cases h : w.apply e with
  | error cause => simp [bind, Except.bind]
  | ok v => simp [bind, Except.bind, applyAll]

theorem applyAll_append_of_ok {es : List Edit} (es' : List Edit) (h : w.applyAll es = .ok w') :
    w.applyAll (es ++ es') = w'.applyAll es' := by
  rw [applyAll] at h
  rw [applyAll, List.foldlM_append, h]
  rfl

/-! ## Adding nodes -/

/-- Nodes with new and distinct ids can be added one after the other. -/
theorem applyAll_insertNode {ns : List Node} (h : (w.ids ++ ns.map (·.id)).Nodup) :
    w.applyAll (ns.map .insertNode) = .ok { w with nodes := w.nodes ++ ns } := by
  induction ns generalizing w with
  | nil => simp
  | cons n ns ih =>
    have hnew : n.id ∉ w.ids := by
      intro hmem
      exact List.disjoint_of_nodup_append h hmem (by simp)
    have hadd : w.apply (.insertNode n) = .ok { w with nodes := w.nodes ++ [n] } :=
      insertNode_eq_ok_iff.2 ⟨hnew, rfl⟩
    refine applyAll_cons_eq_ok_iff.2 ⟨_, hadd, ?_⟩
    rw [ih (by simpa [ids] using h)]
    simp

/-! ## Making connections -/

/-- The graph of a workflow with more connections. -/
def graphWith (w : Workflow) (cs : List Connection) : Graph :=
  .ofParts w.ids (w.connections ++ cs)

/-- What is asked of connections that are to be made one after the other: nothing of it refers to
their order. -/
structure Accepts (w : Workflow) (cs : List Connection) : Prop where
  joined : ∀ c ∈ cs, c.source ∈ w.ids ∧ c.target ∈ w.ids
  fresh : ∀ c ∈ cs, c ∉ w.connections
  single : cs.Nodup
  /-- With all of them made, none is a loop or part of a cycle. -/
  acyclic : ∀ c ∈ cs, ¬ (w.graphWith cs).Path c.target c.source

theorem adj_graphWith : (w.graphWith cs).Adj a b ↔
    ((⟨a, b⟩ : Connection) ∈ w.connections ∨ ⟨a, b⟩ ∈ cs) ∧ a ∈ w.ids ∧ b ∈ w.ids := by
  simp [graphWith, Graph.Adj, Graph.ofParts, or_and_right]

theorem path_graphWith_iff :
    (w.graphWith cs).Path a b ↔ a ∈ w.ids ∧ ReflTransGen (w.graphWith cs).Adj a b :=
  Graph.path_iff

theorem graphWith_nil (w : Workflow) : w.graphWith [] = w.graph := by
  simp [graphWith, graph]

/-- More connections leave every way open. -/
theorem path_graphWith_mono (hcs : cs ⊆ cs') (h : (w.graphWith cs).Path a b) :
    (w.graphWith cs').Path a b := by
  obtain ⟨ha, hab⟩ := path_graphWith_iff.1 h
  have hadj : ∀ x y, (w.graphWith cs).Adj x y → (w.graphWith cs').Adj x y := by
    intro x y hxy
    obtain ⟨hmem, hids⟩ := adj_graphWith.1 hxy
    exact adj_graphWith.2 ⟨hmem.imp_right (hcs ·), hids⟩
  exact path_graphWith_iff.2 ⟨ha, ReflTransGen.mono hadj a b hab⟩

/-- Part of a batch is accepted where all of it is. -/
theorem Accepts.of_subset (h : w.Accepts cs) (hcs : cs' ⊆ cs) (hsingle : cs'.Nodup) :
    w.Accepts cs' where
  joined c hc := h.joined c (hcs hc)
  fresh c hc := h.fresh c (hcs hc)
  single := hsingle
  acyclic c hc hpath := h.acyclic c (hcs hc) (path_graphWith_mono hcs hpath)

theorem Accepts.perm (h : w.Accepts cs) (hcs : cs.Perm cs') : w.Accepts cs' :=
  h.of_subset hcs.symm.subset (hcs.nodup_iff.1 h.single)

theorem Accepts.head (h : w.Accepts (c :: cs)) : w.Accepts [c] :=
  h.of_subset (by simp) (List.nodup_singleton c)

/-- A single connection makes a way back only where there was one. -/
theorem path_graphWith_singleton_iff :
    (w.graphWith [c]).Path c.target c.source ↔ w.graph.Path c.target c.source := by
  rw [← graphWith_nil w]
  refine ⟨fun h => ?_, path_graphWith_mono (List.nil_subset _)⟩
  obtain ⟨ht, hts⟩ := path_graphWith_iff.1 h
  have hnew : ∀ a b, (w.graphWith [c]).Adj a b →
      (w.graphWith []).Adj a b ∨ a = c.source ∧ b = c.target := by
    intro a b hab
    obtain ⟨hmem | hmem, hids⟩ := adj_graphWith.1 hab
    · exact .inl (adj_graphWith.2 ⟨.inl hmem, hids⟩)
    · obtain rfl := List.mem_singleton.1 hmem
      exact .inr ⟨rfl, rfl⟩
  exact path_graphWith_iff.2 ⟨ht, reflTransGen_back_of_new hnew hts⟩

/-- One connection goes through if it is accepted as a batch of its own. -/
theorem exists_apply_edit_iff : (∃ w', w.apply c.edit = .ok w') ↔ w.Accepts [c] := by
  constructor
  · rintro ⟨w', h⟩
    obtain ⟨n, hs, ht, -, hfresh, hpath, -⟩ := connect_eq_ok_iff.1 h
    have hs : c.source ∈ w.ids := isSome_node_iff.1 (by simp [hs])
    exact ⟨by simp [hs, ht], by simpa using hfresh, List.nodup_singleton c,
      by simpa [path_graphWith_singleton_iff] using hpath⟩
  · rintro ⟨joined, fresh, -, acyclic⟩
    obtain ⟨hs, ht⟩ := joined c (by simp)
    obtain ⟨n, hn⟩ := exists_node hs
    have hpath : ¬ w.graph.Path c.target c.source :=
      fun h => acyclic c (by simp) (path_graphWith_singleton_iff.2 h)
    have hloop : c.source ≠ c.target := by
      intro heq
      exact hpath (heq ▸ .refl hs)
    exact ⟨_, connect_eq_ok_iff.2 ⟨n, hn, ht, hloop, fresh c (by simp), hpath, rfl⟩⟩

/-- A way back that the first connection of a batch has, the others made, is there without them, or
it is a way back of one of them. -/
theorem path_graphWith_cons (hs : c.source ∈ w.ids) (ht : c.target ∈ w.ids)
    (h : (w.graphWith (c :: cs)).Path c.target c.source) :
    (w.graphWith [c]).Path c.target c.source ∨
      ∃ d ∈ cs, (w.graphWith (c :: cs)).Path d.target d.source := by
  obtain ⟨-, hts⟩ := path_graphWith_iff.1 h
  have hor : ∀ a b, (w.graphWith (c :: cs)).Adj a b →
      (w.graphWith [c]).Adj a b ∨ (⟨a, b⟩ : Connection) ∈ cs ∧ b ∈ w.ids := by
    intro a b hab
    obtain ⟨hmem, hids⟩ := adj_graphWith.1 hab
    rcases hmem with hmem | hmem
    · exact .inl (adj_graphWith.2 ⟨.inl hmem, hids⟩)
    · rcases List.mem_cons.1 hmem with heq | hmem
      · exact .inl (adj_graphWith.2 ⟨.inr (by simp [heq]), hids⟩)
      · exact .inr ⟨hmem, hids.2⟩
  rcases reflTransGen_of_or hor hts with hts | ⟨a, b, ⟨hab, hb⟩, hta, hbs⟩
  · exact .inl (path_graphWith_iff.2 ⟨ht, hts⟩)
  · have hst : (w.graphWith (c :: cs)).Adj c.source c.target :=
      adj_graphWith.2 ⟨.inr (by simp), hs, ht⟩
    exact .inr ⟨⟨a, b⟩, hab, path_graphWith_iff.2 ⟨hb, (hbs.tail hst).trans hta⟩⟩

/-- The step: a batch is accepted if its first connection is and, that being made, the others
are. -/
theorem accepts_cons_iff (hids : w'.ids = w.ids) (hconn : w'.connections = w.connections ++ [c]) :
    w.Accepts (c :: cs) ↔ w.Accepts [c] ∧ w'.Accepts cs := by
  have hgraph : w'.graphWith cs = w.graphWith (c :: cs) := by
    simp [graphWith, hids, hconn]
  constructor
  · intro h
    obtain ⟨hc, hcs⟩ := List.nodup_cons.1 h.single
    refine ⟨h.head, ⟨?_, ?_, hcs, ?_⟩⟩
    · exact fun d hd => hids ▸ h.joined d (.tail c hd)
    · intro d hd hmem
      rcases List.mem_append.1 (hconn ▸ hmem) with hmem | hmem
      · exact h.fresh d (.tail c hd) hmem
      · exact hc (List.mem_singleton.1 hmem ▸ hd)
    · exact fun d hd => hgraph ▸ h.acyclic d (.tail c hd)
  · rintro ⟨hc, hcs⟩
    obtain ⟨hs, ht⟩ := hc.joined c (by simp)
    have hnew : c ∉ cs := by
      intro hmem
      exact hcs.fresh c hmem (by simp [hconn])
    refine ⟨?_, ?_, List.nodup_cons.2 ⟨hnew, hcs.single⟩, ?_⟩
    · exact List.forall_mem_cons.2 ⟨⟨hs, ht⟩, fun d hd => hids ▸ hcs.joined d hd⟩
    · refine List.forall_mem_cons.2 ⟨hc.fresh c (by simp), fun d hd hmem => ?_⟩
      exact hcs.fresh d hd (by simp [hconn, hmem])
    · have hrest : ∀ d ∈ cs, ¬ (w.graphWith (c :: cs)).Path d.target d.source :=
        hgraph ▸ hcs.acyclic
      refine List.forall_mem_cons.2 ⟨fun hpath => ?_, hrest⟩
      rcases path_graphWith_cons hs ht hpath with hpath | ⟨d, hd, hpath⟩
      · exact hc.acyclic c (by simp) hpath
      · exact hrest d hd hpath

theorem drawn_of_apply_edit (h : w.apply c.edit = .ok w') :
    w'.ids = w.ids ∧ w'.connections = w.connections ++ [c] := by
  obtain ⟨n, -, -, -, -, -, rfl⟩ := connect_eq_ok_iff.1 h
  exact ⟨map_id_modifyFirst (id_inheritPath n) c.target w.nodes, rfl⟩

/-- The run: by induction on the batch. -/
theorem exists_applyAll_iff :
    (∃ w', w.applyAll (cs.map Connection.edit) = .ok w') ↔ w.Accepts cs := by
  induction cs generalizing w with
  | nil => simpa using (⟨by simp, by simp, by simp, by simp⟩ : w.Accepts [])
  | cons c cs ih =>
    constructor
    · rintro ⟨w', h⟩
      obtain ⟨v, hv, h⟩ := applyAll_cons_eq_ok_iff.1 h
      obtain ⟨hids, hconn⟩ := drawn_of_apply_edit hv
      exact (accepts_cons_iff hids hconn).2 ⟨exists_apply_edit_iff.1 ⟨v, hv⟩, ih.1 ⟨w', h⟩⟩
    · intro h
      obtain ⟨v, hv⟩ := exists_apply_edit_iff.2 h.head
      obtain ⟨hids, hconn⟩ := drawn_of_apply_edit hv
      obtain ⟨w', h⟩ := ih.2 ((accepts_cons_iff hids hconn).1 h).2
      exact ⟨w', applyAll_cons_eq_ok_iff.2 ⟨v, hv, h⟩⟩

end Workflow

/-! ## Taking over paths -/

namespace Workflow

variable {v v' w : Workflow} {c : Connection} {cs : List Connection} {s s' m n : Node}
  {ns : List Node}

/-- What a node may become when connections of `w` are made: it stays, or it takes over the path
that a node in front of it leaves behind, into a field that was blank and that the user had not
edited. -/
inductive Filled (w : Workflow) (n : Node) : Node → Prop
  | kept : Filled w n n
  | filled {s : Node} {field path : String} (hs : s ∈ w.nodes) (hconn : w.Connects s.id n.id)
      (hfield : n.kind.inheritedField = some field) (hpath : s.settings.producedPath = some path)
      (hedited : n.editedFields.contains field = false)
      (hblank : Text.isMissing n.settings.inheritedValue = true) :
      Filled w n { n with settings := n.settings.fill path }

namespace Filled

theorem id_eq (h : w.Filled n m) : m.id = n.id := by
  cases h <;> rfl

theorem producedPath_eq (h : w.Filled n m) :
    m.settings.producedPath = n.settings.producedPath := by
  cases h with
  | kept => rfl
  | filled => exact Settings.producedPath_fill _ _

/-- The step: a node takes over a path only as long as its field is blank, and a path that has been
taken over is not. -/
theorem inheritPath (h : w.Filled n m) (hs : s ∈ w.nodes) (hconn : w.Connects s.id n.id)
    (hsource : s'.settings.producedPath = s.settings.producedPath) :
    w.Filled n (s'.inheritPath m) := by
  rw [Node.inheritPath]
  split
  case h_2 => exact h
  case h_1 field path hinherit =>
    obtain ⟨hfield, hpath, hedited, hblank⟩ := Node.inheritance_eq_some_iff.1 hinherit
    cases h with
    | kept => exact .filled hs hconn hfield (hsource ▸ hpath) hedited hblank
    | filled _ _ hfield' hpath' =>
      rw [Settings.inheritedValue_fill hfield', Text.isMissing, Option.all_some,
        Settings.isBlank_producedPath hpath'] at hblank
      cases hblank

end Filled

/-- What a batch of connections of `w` makes of some of its nodes, whatever workflow they are in. -/
theorem forall₂_filled_of_applyAll (hns : ns ⊆ w.nodes) (hcs : cs ⊆ w.connections)
    (h : List.Forall₂ w.Filled ns v.nodes) (hv : v.applyAll (cs.map Connection.edit) = .ok v') :
    List.Forall₂ w.Filled ns v'.nodes ∧ v'.connections = v.connections ++ cs := by
  induction cs generalizing v with
  | nil =>
    obtain rfl := Except.ok.inj hv
    exact ⟨h, by simp⟩
  | cons c cs ih =>
    obtain ⟨u, hu, hv⟩ := applyAll_cons_eq_ok_iff.1 hv
    obtain ⟨s', hs', -, -, -, -, rfl⟩ := connect_eq_ok_iff.1 hu
    obtain ⟨hmem, hid'⟩ := node_eq_some hs'
    obtain ⟨s, hs, hsource⟩ := exists_left_of_forall₂ h hmem
    have hstep : List.Forall₂ w.Filled ns (modifyFirst c.target s'.inheritPath v.nodes) := by
      refine forall₂_modifyFirst h fun n m hid hnm => ?_
      refine hnm.inheritPath (hns hs) ?_ hsource.producedPath_eq
      rw [← hsource.id_eq, hid', ← hnm.id_eq, hid]
      exact hcs (.head cs)
    obtain ⟨hnodes, hconn⟩ := ih (fun d hd => hcs (.tail c hd)) hstep hv
    exact ⟨hnodes, by simp [hconn]⟩

/-! ## All of a workflow -/

/-- A well-drawn workflow accepts all its connections again, once its nodes are there. -/
theorem WellDrawn.accepts (h : w.WellDrawn) (hns : ns.Perm w.nodes) (hcs : cs.Perm w.connections) :
    Accepts ⟨ns, []⟩ cs := by
  have hids : ∀ id, id ∈ ids ⟨ns, []⟩ ↔ id ∈ w.ids := fun id => (hns.map (·.id)).mem_iff
  refine ⟨fun c hc => ?_, by simp, hcs.nodup_iff.2 h.single, fun c hc hpath => ?_⟩
  · simpa [hids] using h.joined c (hcs.subset hc)
  · obtain ⟨-, hts⟩ := path_graphWith_iff.1 hpath
    have hconnects : ∀ a b, (graphWith ⟨ns, []⟩ cs).Adj a b → w.Connects a b := by
      intro a b hab
      exact hcs.subset (by simpa using (adj_graphWith.1 hab).1)
    have hback : ReflTransGen w.Connects c.target c.source :=
      ReflTransGen.mono hconnects _ _ hts
    exact h.acyclic c.source (.head' (hcs.subset hc) hback)

/-- A workflow whose drawing validation does not complain of is made from nothing by adding its
nodes in any order and then its connections in any order, up to paths that nodes take over; and the
order never decides whether connections can be made. -/
theorem rebuilds_in_any_order :
    (∀ (w : Workflow) (ns : List Node) (cs : List Connection), w.validate.Lacks drawingCodes →
      ns.Perm w.nodes → cs.Perm w.connections →
        ∃ w', ({} : Workflow).applyAll (ns.map .insertNode ++ cs.map Connection.edit) = .ok w' ∧
          w'.connections = cs ∧ List.Forall₂ w.Filled ns w'.nodes) ∧
      ∀ (w : Workflow) (cs cs' : List Connection), cs.Perm cs' →
        ((∃ w', w.applyAll (cs.map Connection.edit) = .ok w') ↔
          ∃ w', w.applyAll (cs'.map Connection.edit) = .ok w') := by
  constructor
  · intro w ns cs hlacks hns hcs
    have hw : w.WellDrawn := wellDrawn_iff_lacks.2 hlacks
    have hdistinct : (ns.map (·.id)).Nodup := (hns.map Node.id).nodup_iff.2 hw.distinct
    have hadd : ({} : Workflow).applyAll (ns.map .insertNode) = .ok ⟨ns, []⟩ :=
      applyAll_insertNode (by simpa [ids] using hdistinct)
    obtain ⟨w', hw'⟩ := exists_applyAll_iff.2 (hw.accepts hns hcs)
    have hstart : List.Forall₂ w.Filled ns ns := List.forall₂_same.2 fun _ _ => .kept
    obtain ⟨hnodes, hconn⟩ := forall₂_filled_of_applyAll hns.subset hcs.subset hstart hw'
    exact ⟨w', (applyAll_append_of_ok _ hadd).trans hw', hconn, hnodes⟩
  · intro w cs cs' hcs
    rw [exists_applyAll_iff, exists_applyAll_iff]
    exact ⟨fun h => h.perm hcs, fun h => h.perm hcs.symm⟩

/-- A file is copied, and what is left behind is to be deleted. -/
def handover : Workflow where
  nodes := [
    { id := "start", settings := .start {} },
    { id := "copy", settings := .copyFile { sourcePath := some "a", destinationPath := some "b" } },
    { id := "drop", settings := .deleteFile { sourcePath := some " " } },
    { id := "end", settings := .finish {} }]
  connections := [⟨"start", "copy"⟩, ⟨"copy", "drop"⟩, ⟨"drop", "end"⟩]

/-- Backwards. -/
theorem rebuilds_handover :
    handover.validate.Lacks drawingCodes ∧
      (∃ w', ({} : Workflow).applyAll (handover.nodes.reverse.map .insertNode ++
          handover.connections.reverse.map Connection.edit) = .ok w' ∧
        w'.connections = handover.connections.reverse ∧
        List.Forall₂ handover.Filled handover.nodes.reverse w'.nodes) ∧
      ((∃ w', handover.applyAll
          ([⟨"copy", "end"⟩, ⟨"end", "start"⟩].map Connection.edit) = .ok w') ↔
        ∃ w', handover.applyAll
          ([⟨"end", "start"⟩, ⟨"copy", "end"⟩].map Connection.edit) = .ok w') := by
  have h : handover.validate.Lacks drawingCodes := by decide +kernel
  exact ⟨h, rebuilds_in_any_order.1 handover _ _ h (List.reverse_perm _) (List.reverse_perm _),
    rebuilds_in_any_order.2 handover _ _ (.swap _ _ _)⟩

/-- On the way the path of the copy is taken over. -/
example : ((({} : Workflow).applyAll (handover.nodes.reverse.map .insertNode ++
    handover.connections.reverse.map Connection.edit)).toOption.bind (·.node "drop")).map
      (·.settings.inheritedValue) = some (some "b") := by decide +kernel

end Workflow

end DataPipeline
