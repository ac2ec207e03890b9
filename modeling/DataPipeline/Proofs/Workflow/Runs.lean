import DataPipeline.Proofs.Graph.Acyclic
import DataPipeline.Proofs.Validation.WellDrawn
import DataPipeline.Proofs.Workflow.Editing

/-!
# Runs of edits

Every edit leaves a well-drawn workflow well drawn, and so does every sequence of edits, whichever
of them are rejected.

## Main results

* `Workflow.WellDrawn.redrawn`: the five kinds of change
* `Workflow.lacks_drawingCodes_run`: no sequence of edits makes validation complain of the drawing
-/
namespace DataPipeline.Workflow

open Relation

variable {w w' : Workflow}

theorem wellDrawn_empty : ({} : Workflow).WellDrawn where
  distinct := by simp [ids]
  joined := by simp
  loopless := by simp
  single := by simp
  acyclic a ha := by
    obtain ⟨b, hab, -⟩ := TransGen.head'_iff.1 ha
    simp [Connects] at hab

namespace WellDrawn

/-- Fewer connections between the same nodes make no fault. -/
theorem of_sublist (h : w.WellDrawn) (hids : w'.ids = w.ids)
    (hconn : w'.connections.Sublist w.connections) : w'.WellDrawn where
  distinct := hids ▸ h.distinct
  joined c hc := hids ▸ h.joined c (hconn.subset hc)
  loopless c hc := h.loopless c (hconn.subset hc)
  single := h.single.sublist hconn
  acyclic a ha := h.acyclic a (TransGen.mono (fun _ _ hab => hconn.subset hab) a a ha)

/-- A node without connections. -/
theorem added (h : w.WellDrawn) {id : String} (hnew : id ∉ w.ids) (hids : w'.ids = w.ids ++ [id])
    (hconn : w'.connections = w.connections) : w'.WellDrawn where
  distinct := by
    rw [hids, List.nodup_append]
    refine ⟨h.distinct, List.nodup_singleton id, ?_⟩
    rintro a ha b hb rfl
    exact hnew (List.mem_singleton.1 hb ▸ ha)
  joined c hc := by
    have := h.joined c (hconn ▸ hc)
    simp [hids, this]
  loopless := hconn ▸ h.loopless
  single := hconn ▸ h.single
  acyclic a ha := by
    have hsub : ∀ a b, w'.Connects a b → w.Connects a b := by simp [Connects, hconn]
    exact h.acyclic a (TransGen.mono hsub a a ha)

/-- One node less, and with it all connections that touch it. -/
theorem removed (h : w.WellDrawn) {id : String} (hids : w'.ids = w.ids.erase id)
    (hconn : w'.connections = w.connections.filter (!·.touches id)) : w'.WellDrawn := by
  have hsub : w'.connections.Sublist w.connections := hconn ▸ List.filter_sublist
  refine ⟨hids ▸ h.distinct.erase id, fun c hc => ?_, ?_, ?_, ?_⟩
  · have hends := h.joined c (hsub.subset hc)
    have hfree : c.source ≠ id ∧ c.target ≠ id := by
      rw [hconn, List.mem_filter] at hc
      simpa [Connection.touches] using hc.2
    simp [hids, h.distinct.mem_erase_iff, hends, hfree]
  · exact fun c hc => h.loopless c (hsub.subset hc)
  · exact h.single.sublist hsub
  · exact fun a ha => h.acyclic a (TransGen.mono (fun _ _ hab => hsub.subset hab) a a ha)

/-- One more connection, whose target does not lead to its source. -/
theorem joined_of_new (h : w.WellDrawn) {s t : String} (hs : s ∈ w.ids) (ht : t ∈ w.ids)
    (hst : s ≠ t) (hnew : (⟨s, t⟩ : Connection) ∉ w.connections) (hpath : ¬ w.graph.Path t s)
    (hids : w'.ids = w.ids) (hconn : w'.connections = w.connections ++ [⟨s, t⟩]) :
    w'.WellDrawn := by
  have hmem (c : Connection) : c ∈ w'.connections ↔ c ∈ w.connections ∨ c = ⟨s, t⟩ := by
    simp [hconn]
  have hts : ¬ ReflTransGen w.Connects t s := by
    rw [Graph.path_iff, adj_graph_of_joined h.joined] at hpath
    exact fun hts => hpath ⟨ht, hts⟩
  refine ⟨hids ▸ h.distinct, fun c hc => ?_, fun c hc => ?_, ?_, ?_⟩
  · rcases (hmem c).1 hc with hc | rfl
    · exact hids ▸ h.joined c hc
    · exact hids ▸ ⟨hs, ht⟩
  · rcases (hmem c).1 hc with hc | rfl
    · exact h.loopless c hc
    · exact hst
  · rw [hconn, List.nodup_append]
    refine ⟨h.single, List.nodup_singleton _, ?_⟩
    rintro a ha b hb rfl
    exact hnew (List.mem_singleton.1 hb ▸ ha)
  · refine acyclic_of_new (fun a b hab => ?_) hts h.acyclic
    rcases (hmem _).1 hab with hab | hab
    · exact .inl hab
    · exact .inr (by simpa using hab)

/-- The step: no kind of change spoils the drawing. -/
theorem redrawn (h : w.WellDrawn) (hr : Redrawn w w') : w'.WellDrawn := by
  cases hr with
  | kept hids hconn => exact h.of_sublist hids (hconn ▸ List.Sublist.refl _)
  | added id hnew hids hconn => exact h.added hnew hids hconn
  | removed id hids hconn => exact h.removed hids hconn
  | joined s t hs ht hst hnew hpath hids hconn =>
    exact h.joined_of_new hs ht hst hnew hpath hids hconn
  | parted c hids hconn => exact h.of_sublist hids (hconn ▸ List.filter_sublist)

theorem attempt (h : w.WellDrawn) (e : Edit) : (w.attempt e).WellDrawn := by
  rw [Workflow.attempt]
  split
  · rename_i w' hw'
    exact h.redrawn (redrawn_of_apply hw')
  · exact h

/-- The run: induction on the edits, the drawing being the invariant. -/
theorem run (h : w.WellDrawn) (es : List Edit) : (w.run es).WellDrawn := by
  induction es generalizing w with
  | nil => exact h
  | cons e es ih => exact ih (h.attempt e)

end WellDrawn

/-- Whatever is done to a workflow, in whatever order and with whatever arguments, validation finds
no dangling or repeated connection, loop, cycle or repeated id in it, if it found none before. -/
theorem lacks_drawingCodes_run (es : List Edit) :
    (({} : Workflow).run es).validate.Lacks drawingCodes ∧
      ∀ w : Workflow, w.validate.Lacks drawingCodes → (w.run es).validate.Lacks drawingCodes :=
  ⟨wellDrawn_iff_lacks.1 (wellDrawn_empty.run es),
    fun _ h => wellDrawn_iff_lacks.1 ((wellDrawn_iff_lacks.2 h).run es)⟩

/-- A rejected cycle, a removal with its connections, and a new connection. -/
theorem lacks_drawingCodes_run_transfer :
    (transfer "csv").validate.Lacks drawingCodes ∧
      ((transfer "csv").run [.connect "out" "in", .eraseNode "out",
        .connect "in" "end"]).validate.Lacks drawingCodes := by
  have h : (transfer "csv").validate.Lacks drawingCodes := by decide +kernel
  exact ⟨h, (lacks_drawingCodes_run _).2 _ h⟩

end DataPipeline.Workflow
