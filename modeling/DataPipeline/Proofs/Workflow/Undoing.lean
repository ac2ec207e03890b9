import DataPipeline.Proofs.Workflow.Runs

/-!
# Undoing edits

A node that was added can be removed again, a connection that was made can be taken away again, and
one that was taken away can be made again. The first and the last of these rest on the drawing: an
added node must not find connections that wait for it, and what is left of a workflow without cycles
must not lead back.

Only a path that a node has taken over is not given back.

## Main definitions

* `Workflow.TakesOver`: a node that may have taken over a path
* `Workflow.RestoredBut`: a workflow as it was but for such a path
* `Workflow.Undoable`: the three kinds of edits and what undoes them

## Main results

* `Workflow.WellDrawn.undoable`
* `Workflow.undoable_run`
-/
namespace DataPipeline.Workflow

open Relation

variable {w w' : Workflow} {s t : String} {n : Node}

/-- The node after a connection from `s`: it is as before or has taken over a path. -/
inductive TakesOver (w : Workflow) (s : String) (n : Node) : Node → Prop
  | kept : TakesOver w s n n
  | filled {source : Node} {field path : String} (hs : w.node s = some source)
      (h : source.inheritance n = some (field, path)) :
      TakesOver w s n { n with settings := n.settings.fill path }

/-- The workflow is as before, except that the first node with the id `t` may have taken over a path
from `s`. -/
structure RestoredBut (w : Workflow) (s t : String) (w' : Workflow) : Prop where
  connections : w'.connections = w.connections
  nodes : ∃ before n n' after, w.nodes = before ++ n :: after ∧ n.id = t ∧
    w'.nodes = before ++ n' :: after ∧ w.TakesOver s n n'

/-- Each edit that goes through has another one that undoes it. -/
structure Undoable (w : Workflow) : Prop where
  insertNode : ∀ n w', w.insertNode n = .ok w' → w'.eraseNode n.id = .ok (n, w)
  connect : ∀ s t w', w.connect s t = .ok w' →
    ∃ w'', w'.disconnect s t = .ok w'' ∧ w.RestoredBut s t w''
  disconnect : ∀ s t w', w.disconnect s t = .ok w' →
    ∃ w'', w'.connect s t = .ok w'' ∧ w''.connections = w.connections.erase ⟨s, t⟩ ++ [⟨s, t⟩]

theorem takesOver_inheritPath {source : Node} (hs : w.node s = some source) (n : Node) :
    w.TakesOver s n (source.inheritPath n) := by
  rw [Node.inheritPath]
  split
  · rename_i field path h
    exact .filled hs h
  · exact .kept

/-! ## Connections -/

/-- A new connection stands alone, so that no other goes with it when all its likes do. -/
theorem disconnect_of_connect (h : w.connect s t = .ok w') :
    ∃ w'', w'.disconnect s t = .ok w'' ∧ w.RestoredBut s t w'' := by
  obtain ⟨source, hs, ht, -, hnew, -, rfl⟩ := connect_eq_ok_iff.1 h
  refine ⟨_, disconnect_eq_ok_iff.2 ⟨by simp, rfl⟩, ?_, ?_⟩
  · have hold : w.connections.filter (· ≠ ⟨s, t⟩) = w.connections := by
      rw [List.filter_eq_self]
      intro c hc
      have hne : c ≠ ⟨s, t⟩ := fun heq => hnew (heq ▸ hc)
      simpa using hne
    rw [List.filter_append, hold]
    simp
  · obtain ⟨n, hn⟩ := exists_node ht
    obtain ⟨before, after, hnodes, hbefore⟩ := exists_split_of_node hn
    have hid : n.id = t := (node_eq_some hn).2
    refine ⟨before, n, source.inheritPath n, after, hnodes, hid, ?_, takesOver_inheritPath hs n⟩
    exact hnodes ▸ modifyFirst_split hbefore hid

namespace WellDrawn

/-- The target of a connection does not lead back to its source, whichever connections are left. -/
theorem not_path_of_connects (h : w.WellDrawn) (hst : w.Connects s t)
    (hsub : w'.connections ⊆ w.connections) : ¬ w'.graph.Path t s := by
  rw [Graph.path_iff, not_and]
  intro _ hback
  have hadj (a b : String) (hab : w'.graph.Adj a b) : w.Connects a b := hsub (adj_graph.1 hab).1
  exact h.acyclic s (.head' hst (ReflTransGen.mono hadj t s hback))

theorem connect_of_disconnect (h : w.WellDrawn) (hok : w.disconnect s t = .ok w') :
    ∃ w'', w'.connect s t = .ok w'' ∧
      w''.connections = w.connections.erase ⟨s, t⟩ ++ [⟨s, t⟩] := by
  obtain ⟨hconn, rfl⟩ := disconnect_eq_ok_iff.1 hok
  obtain ⟨hs, ht⟩ := h.joined _ hconn
  obtain ⟨n, hn⟩ := exists_node hs
  have hsub : connections ⟨w.nodes, w.connections.filter (· ≠ ⟨s, t⟩)⟩ ⊆ w.connections :=
    List.filter_sublist.subset
  have hback := h.not_path_of_connects hconn hsub
  refine ⟨_, connect_eq_ok_iff.2 ⟨n, hn, ht, h.loopless _ hconn, by simp, hback, rfl⟩, ?_⟩
  have hrest : w.connections.filter (· ≠ ⟨s, t⟩) = w.connections.erase ⟨s, t⟩ := by
    rw [h.single.erase_eq_filter]
    exact List.filter_congr fun c _ => by rw [decide_not, bne, beq_eq_decide]
  exact congrArg (· ++ [(⟨s, t⟩ : Connection)]) hrest

/-! ## Nodes -/

/-- Nothing waits for a new node, so that nothing goes with it. -/
theorem eraseNode_of_insertNode (h : w.WellDrawn) (hok : w.insertNode n = .ok w') :
    w'.eraseNode n.id = .ok (n, w) := by
  obtain ⟨hnew, rfl⟩ := insertNode_eq_ok_iff.1 hok
  have hother : ∀ m ∈ w.nodes, m.id ≠ n.id := fun m hm heq => hnew (heq ▸ mem_ids_of_mem hm)
  refine eraseNode_eq_ok_iff.2 ⟨?_, ?_⟩
  · have hnone : w.node n.id = none := node_eq_none_iff.2 hnew
    rw [node] at hnone
    rw [node, List.find?_append, hnone]
    simp
  · have hkept : w.connections.filter (!·.touches n.id) = w.connections := by
      rw [List.filter_eq_self]
      intro c hc
      obtain ⟨hs, ht⟩ := h.joined c hc
      have hs : c.source ≠ n.id := fun heq => hnew (heq ▸ hs)
      have ht : c.target ≠ n.id := fun heq => hnew (heq ▸ ht)
      simp [Connection.touches, hs, ht]
    rw [eraseP_split hother rfl, List.append_nil, hkept]

theorem undoable (h : w.WellDrawn) : w.Undoable where
  insertNode _ _ := h.eraseNode_of_insertNode
  connect _ _ _ := disconnect_of_connect
  disconnect _ _ _ := h.connect_of_disconnect

end WellDrawn

/-- Whatever has been done to a workflow that was made from nothing, the next edit can be undone. -/
theorem undoable_run (es : List Edit) : (({} : Workflow).run es).Undoable :=
  (wellDrawn_empty.run es).undoable

/-- A file is to be copied and what is left behind to be deleted. -/
def handoverEdits : List Edit :=
  [.insertNode { id := "in", settings := .readFile { path := some "in.csv" } },
    .insertNode { id := "copy", settings := .copyFile { destinationPath := some "b" } },
    .insertNode { id := "drop", settings := .deleteFile {} },
    .insertNode { id := "spare", settings := .deleteFile {} },
    .connect "copy" "drop", .connect "drop" "copy", .connect "copy" "spare", .eraseNode "spare"]

/-- A node comes and goes; the copy keeps the path of the file that it was connected to; and the
connection that was there is made again. -/
theorem undoable_run_handover :
    (∃ n w', (({} : Workflow).run handoverEdits).insertNode n = .ok w' ∧
      w'.eraseNode n.id = .ok (n, ({} : Workflow).run handoverEdits)) ∧
    (∃ w' w'', (({} : Workflow).run handoverEdits).connect "in" "copy" = .ok w' ∧
      w'.disconnect "in" "copy" = .ok w'' ∧
      (({} : Workflow).run handoverEdits).RestoredBut "in" "copy" w'') ∧
    ∃ w' w'', (({} : Workflow).run handoverEdits).disconnect "copy" "drop" = .ok w' ∧
      w'.connect "copy" "drop" = .ok w'' ∧ w''.connections = [⟨"copy", "drop"⟩] := by
  have h := undoable_run handoverEdits
  obtain ⟨w', hw'⟩ : ∃ w', (({} : Workflow).run handoverEdits).connect "in" "copy" = .ok w' :=
    ⟨_, rfl⟩
  obtain ⟨v', hv'⟩ : ∃ v', (({} : Workflow).run handoverEdits).disconnect "copy" "drop" = .ok v' :=
    ⟨_, rfl⟩
  obtain ⟨w'', hw'', hrestored⟩ := h.connect _ _ _ hw'
  obtain ⟨v'', hv'', hconn⟩ := h.disconnect _ _ _ hv'
  exact ⟨⟨{ id := "spare", settings := .finish {} }, _, rfl, h.insertNode _ _ rfl⟩,
    ⟨w', w'', hw', hw'', hrestored⟩, v', v'', hv', hv'', hconn⟩

end DataPipeline.Workflow
