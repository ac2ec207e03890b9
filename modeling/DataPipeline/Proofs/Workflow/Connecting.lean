import DataPipeline.Proofs.Graph.Acyclic
import DataPipeline.Proofs.Validation.WellDrawn
import DataPipeline.Proofs.Workflow.Editing

/-!
# When a connection can be made

An attempt to connect two nodes is refused for the first of five reasons that applies, and goes
through if none does. This is so in every workflow, however it is drawn: a workflow that has cycles,
loops, repeated or dangling connections keeps those that it has and gets no others.

## Main definitions

* `Workflow.Joins`: a connection between two nodes that exist
* `Workflow.OnCycle`, `Workflow.InCycle`: nodes and connections that are part of a cycle
* `Workflow.Verdict`: what is decided about a connection, and why

## Main results

* `Workflow.verdict_connect`
-/
namespace DataPipeline.Workflow

open Relation

variable {w w' : Workflow} {s t a b : String}

/-! ## Cycles -/

/-- A connection leads from one node to another. One that dangles does not count. -/
def Joins (w : Workflow) (a b : String) : Prop := w.Connects a b ∧ a ∈ w.ids ∧ b ∈ w.ids

/-- The node leads back to itself. -/
def OnCycle (w : Workflow) (a : String) : Prop := TransGen w.Joins a a

/-- The connection is there, and its target leads back to its source. -/
def InCycle (w : Workflow) (c : Connection) : Prop :=
  w.Joins c.source c.target ∧ ReflTransGen w.Joins c.target c.source

theorem adj_graph_eq_joins (w : Workflow) : w.graph.Adj = w.Joins := by
  funext a b
  exact propext adj_graph

theorem path_graph_iff : w.graph.Path a b ↔ a ∈ w.ids ∧ ReflTransGen w.Joins a b := by
  rw [Graph.path_iff, adj_graph_eq_joins]
  rfl

/-! ## One more connection -/

section Connected

variable (hids : w'.ids = w.ids) (hconn : w'.connections = w.connections ++ [⟨s, t⟩])

include hids hconn

theorem joins_of_connected (h : w'.Joins a b) : w.Joins a b ∨ a = s ∧ b = t := by
  obtain ⟨hab, hmem⟩ := h
  rw [Connects, hconn, List.mem_append, List.mem_singleton] at hab
  rcases hab with hab | hab
  · exact .inl ⟨hab, hids ▸ hmem⟩
  · exact .inr (by simpa using hab)

theorem joins_connected (h : w.Joins a b) : w'.Joins a b := by
  obtain ⟨hab, hmem⟩ := h
  refine ⟨?_, hids ▸ hmem⟩
  rw [Connects, hconn]
  exact List.mem_append_left _ hab

theorem onCycle_connected_iff (hback : ¬ ReflTransGen w.Joins t s) :
    w'.OnCycle a ↔ w.OnCycle a := by
  constructor
  · exact transGen_self_of_new (fun _ _ => joins_of_connected hids hconn) hback
  · exact TransGen.mono (fun _ _ => joins_connected hids hconn) a a

theorem not_inCycle_connected (hback : ¬ ReflTransGen w.Joins t s) : ¬ w'.InCycle ⟨s, t⟩ := by
  rintro ⟨-, hts⟩
  exact hback (reflTransGen_back_of_new (fun _ _ => joins_of_connected hids hconn) hts)

end Connected

/-! ## Verdicts -/

/-- What is decided about a connection from `s` to `t`. The reasons exclude each other, and one of
them always applies. -/
inductive Verdict (w : Workflow) (s t : String) : Except EditError Workflow → Prop
  | unknownSource (hs : s ∉ w.ids) : Verdict w s t (.error (.unknownNode s))
  | unknownTarget (hs : s ∈ w.ids) (ht : t ∉ w.ids) : Verdict w s t (.error (.unknownNode t))
  | selfLoop (hs : s ∈ w.ids) (ht : t ∈ w.ids) (hst : s = t) :
      Verdict w s t (.error (.selfLoop s))
  | repeated (hs : s ∈ w.ids) (ht : t ∈ w.ids) (hst : s ≠ t) (hold : w.Connects s t) :
      Verdict w s t (.error (.repeatedConnection s t))
  | cycle (hs : s ∈ w.ids) (ht : t ∈ w.ids) (hst : s ≠ t) (hnew : ¬ w.Connects s t)
      (hback : ReflTransGen w.Joins t s) : Verdict w s t (.error (.wouldCycle s t))
  | connected {w' : Workflow} (hs : s ∈ w.ids) (ht : t ∈ w.ids) (hst : s ≠ t)
      (hnew : ¬ w.Connects s t) (hback : ¬ ReflTransGen w.Joins t s) (hids : w'.ids = w.ids)
      (hconn : w'.connections = w.connections ++ [⟨s, t⟩]) : Verdict w s t (.ok w')

/-- The checks stand in the order of the reasons. -/
theorem verdict_of_connect (w : Workflow) (s t : String) : w.Verdict s t (w.connect s t) := by
  have hpath : w.graph.reaches t s = true ↔ w.graph.Path t s := (closed_graph w).reaches_iff
  cases hsource : w.node s with
  | none =>
    rw [connect, hsource]
    exact .unknownSource (node_eq_none_iff.1 hsource)
  | some n =>
    have hs : s ∈ w.ids := isSome_node_iff.1 (by simp [hsource])
    cases htarget : w.node t with
    | none =>
      rw [connect, hsource, htarget]
      exact .unknownTarget hs (node_eq_none_iff.1 htarget)
    | some m =>
      have ht : t ∈ w.ids := isSome_node_iff.1 (by simp [htarget])
      have hback : w.graph.reaches t s = true ↔ ReflTransGen w.Joins t s := by
        rw [hpath, path_graph_iff, and_iff_right ht]
      simp only [connect, hsource, htarget]
      split_ifs with hst hold hreaches
      · exact .selfLoop hs ht hst
      · exact .repeated hs ht hst hold
      · exact .cycle hs ht hst hold (hback.1 hreaches)
      · exact .connected hs ht hst hold (fun h => hreaches (hback.2 h))
          (map_id_modifyFirst (id_inheritPath n) t w.nodes) rfl

/-- No reason applies beside another one, or where the connection is made. -/
theorem Verdict.eq_error {e : EditError} {r : Except EditError Workflow}
    (h : w.Verdict s t (.error e)) (h' : w.Verdict s t r) : r = .error e := by
  cases h <;> cases h' <;> first | rfl | contradiction

/-- Whether two ids are connected is decided by the first reason that applies. A connection that is
made comes last, is part of no cycle, and puts no node on a cycle that was on none; one that is
refused changes nothing. -/
theorem verdict_connect (w : Workflow) (s t : String) :
    w.Verdict s t (w.connect s t) ∧
      (∀ e, w.connect s t = .error e ↔ w.Verdict s t (.error e)) ∧
      (∀ w', w.connect s t = .ok w' →
        w'.connections = w.connections ++ [⟨s, t⟩] ∧ ¬ w'.InCycle ⟨s, t⟩ ∧
          ∀ a, w'.OnCycle a ↔ w.OnCycle a) ∧
      ∀ e, w.connect s t = .error e → w.attempt (.connect s t) = w := by
  have hverdict := verdict_of_connect w s t
  refine ⟨hverdict, fun e => ⟨?_, fun h => h.eq_error hverdict⟩, fun w' hok => ?_,
    fun e herror => ?_⟩
  · intro herror
    rwa [herror] at hverdict
  · rw [hok] at hverdict
    cases hverdict with
    | connected _ _ _ _ hback hids hconn =>
      exact ⟨hconn, not_inCycle_connected hids hconn hback,
        fun a => onCycle_connected_iff hids hconn hback⟩
  · rw [attempt, apply, herror]

/-- A workflow with a cycle, a loop and connections that lead nowhere. -/
def tangle : Workflow where
  nodes := [
    { id := "read", settings := .readFile { path := some "in.csv" } },
    { id := "copy", settings := .copyFile {} },
    { id := "drop", settings := .deleteFile {} }]
  connections := [⟨"read", "read"⟩, ⟨"copy", "drop"⟩, ⟨"drop", "copy"⟩, ⟨"drop", "nowhere"⟩,
    ⟨"nowhere", "read"⟩]

/-- The way back from the copy to the reader leads through a node that is not there, so the two can
be connected. Now the reader leads to the file that is dropped, and no connection leads back. -/
theorem verdict_connect_tangle :
    ∃ w', tangle.connect "read" "copy" = .ok w' ∧ ¬ w'.InCycle ⟨"read", "copy"⟩ ∧
      (∀ a, w'.OnCycle a ↔ tangle.OnCycle a) ∧
      w'.Verdict "drop" "read" (.error (.wouldCycle "drop" "read")) ∧
      w'.attempt (.connect "drop" "read") = w' := by
  have hconnect : ∃ w', tangle.connect "read" "copy" = .ok w' ∧
      w'.connect "drop" "read" = .error (.wouldCycle "drop" "read") := ⟨_, rfl, rfl⟩
  obtain ⟨w', hok, herror⟩ := hconnect
  obtain ⟨-, -, hmade, -⟩ := verdict_connect tangle "read" "copy"
  obtain ⟨-, hreason, -, hkept⟩ := verdict_connect w' "drop" "read"
  obtain ⟨-, hnew, hold⟩ := hmade w' hok
  exact ⟨w', hok, hnew, hold, (hreason _).1 herror, hkept _ herror⟩

end DataPipeline.Workflow
