import DataPipeline.Proofs.Graph.Reachability
import DataPipeline.Proofs.Workflow.Lookup

/-!
# What edits do

Each edit goes through under conditions of its own and then has one result. Seen from the ids and
the connections alone there are five kinds of change, of which a single edit makes one.

## Main definitions

* `Workflow.Redrawn`: the changes that an edit can make to ids and connections

## Main results

* `Workflow.connect_eq_ok_iff` and its like: when an edit goes through, and what it leads to
* `Workflow.redrawn_of_apply`: an edit makes one of the changes
-/
namespace DataPipeline.Workflow

variable {w w' : Workflow} {id s t : String} {n : Node}

/-! ## Single edits -/

theorem insertNode_eq_ok_iff :
    w.insertNode n = .ok w' ↔ n.id ∉ w.ids ∧ w' = { w with nodes := w.nodes ++ [n] } := by
  by_cases h : n.id ∈ w.ids
  · simp [insertNode, isSome_node_iff, h]
  · simp [insertNode, isSome_node_iff, h, eq_comm (a := w')]

theorem eraseNode_eq_ok_iff :
    w.eraseNode id = .ok (n, w') ↔ w.node id = some n ∧
      w' = ⟨w.nodes.eraseP (·.id = id), w.connections.filter (!·.touches id)⟩ := by
  cases h : w.node id with
  | none => simp [eraseNode, h]
  | some m => simp [eraseNode, h, eq_comm (a := w')]

theorem apply_eraseNode_eq_ok_iff :
    w.apply (.eraseNode id) = .ok w' ↔ id ∈ w.ids ∧
      w' = ⟨w.nodes.eraseP (·.id = id), w.connections.filter (!·.touches id)⟩ := by
  rw [← isSome_node_iff]
  cases h : w.node id with
  | none => simp [apply, eraseNode, h]
  | some n => simp [apply, eraseNode, h, eq_comm (a := w')]

theorem modifyNode_eq_ok_iff {f : Node → Node} :
    w.modifyNode id f = .ok w' ↔
      id ∈ w.ids ∧ w' = { w with nodes := modifyFirst id f w.nodes } := by
  by_cases h : id ∈ w.ids
  · simp [modifyNode, isSome_node_iff, h, eq_comm (a := w')]
  · simp [modifyNode, isSome_node_iff, h]

theorem connect_eq_ok_iff :
    w.connect s t = .ok w' ↔ ∃ n, w.node s = some n ∧ t ∈ w.ids ∧ s ≠ t ∧
      (⟨s, t⟩ : Connection) ∉ w.connections ∧ ¬ w.graph.Path t s ∧
      w' = ⟨modifyFirst t n.inheritPath w.nodes, w.connections ++ [⟨s, t⟩]⟩ := by
  have hpath : w.graph.reaches t s = true ↔ w.graph.Path t s := (closed_graph w).reaches_iff
  cases hs : w.node s with
  | none => simp [connect, hs]
  | some n =>
    cases ht : w.node t with
    | none => simp [connect, hs, ht, node_eq_none_iff.1 ht]
    | some m =>
      have htm : t ∈ w.ids := isSome_node_iff.1 (by simp [ht])
      simp only [connect, hs, ht, hpath]
      split_ifs <;> simp_all [eq_comm (a := w')]

theorem disconnect_eq_ok_iff :
    w.disconnect s t = .ok w' ↔ (⟨s, t⟩ : Connection) ∈ w.connections ∧
      w' = { w with connections := w.connections.filter (· ≠ ⟨s, t⟩) } := by
  by_cases h : (⟨s, t⟩ : Connection) ∈ w.connections
  · simp [disconnect, h, eq_comm (a := w')]
  · simp [disconnect, h]

/-- The node with settings laid over its own. -/
def patched (settings : Settings) (keys : List String) (n : Node) : Node :=
  { n with settings := settings, editedFields := n.editedFields.addAll keys }

theorem patchSettings_eq_ok_iff {patch : Json} :
    w.patchSettings id patch = .ok w' ↔ ∃ n members settings, w.node id = some n ∧
      patch = .obj members ∧ Settings.ofJson n.kind (mergedSettings n members) = .ok settings ∧
      w' = { w with nodes := modifyFirst id (patched settings (members.map (·.1))) w.nodes } := by
  cases hn : w.node id with
  | none => simp [patchSettings, hn]
  | some n =>
    have hid : id ∈ w.ids := isSome_node_iff.1 (by simp [hn])
    cases patch with
    | obj members =>
      cases hs : Settings.ofJson n.kind (mergedSettings n members) with
      | error cause => simp [patchSettings, hn, hs]
      | ok settings =>
        have hpatched : w.patchSettings id (.obj members) =
            w.modifyNode id (patched settings (members.map (·.1))) := by
          simp only [patchSettings, hn, hs]
          rfl
        simp [hpatched, modifyNode_eq_ok_iff, hid, hs]
    | _ => simp [patchSettings, hn]

/-! ## Attempts -/

theorem attempt_of_ok {e : Edit} (h : w.apply e = .ok w') : w.attempt e = w' := by
  rw [attempt, h]

theorem attempt_of_error {e : Edit} {cause : EditError} (h : w.apply e = .error cause) :
    w.attempt e = w := by
  rw [attempt, h]

theorem run_cons (w : Workflow) (e : Edit) (es : List Edit) :
    w.run (e :: es) = (w.attempt e).run es := rfl

theorem run_append (w : Workflow) (es fs : List Edit) : w.run (es ++ fs) = (w.run es).run fs :=
  List.foldl_append

/-! ## Ids and connections -/

/-- What an edit may do to the ids and the connections. -/
inductive Redrawn (w w' : Workflow) : Prop
  | kept (hids : w'.ids = w.ids) (hconn : w'.connections = w.connections)
  | added (id : String) (hnew : id ∉ w.ids) (hids : w'.ids = w.ids ++ [id])
      (hconn : w'.connections = w.connections)
  | removed (id : String) (hids : w'.ids = w.ids.erase id)
      (hconn : w'.connections = w.connections.filter (!·.touches id))
  | joined (s t : String) (hs : s ∈ w.ids) (ht : t ∈ w.ids) (hst : s ≠ t)
      (hnew : (⟨s, t⟩ : Connection) ∉ w.connections) (hpath : ¬ w.graph.Path t s)
      (hids : w'.ids = w.ids) (hconn : w'.connections = w.connections ++ [⟨s, t⟩])
  | parted (c : Connection) (hids : w'.ids = w.ids)
      (hconn : w'.connections = w.connections.filter (· ≠ c))

theorem id_inheritPath (m n : Node) : (m.inheritPath n).id = n.id := by
  rw [Node.inheritPath]
  split <;> rfl

/-- A change to one node that leaves its id keeps ids and connections. -/
theorem redrawn_of_modifyNode {f : Node → Node} (hf : ∀ n, (f n).id = n.id)
    (h : w.modifyNode id f = .ok w') : Redrawn w w' := by
  obtain ⟨-, rfl⟩ := modifyNode_eq_ok_iff.1 h
  exact .kept (map_id_modifyFirst hf id w.nodes) rfl

theorem redrawn_of_apply {e : Edit} (h : w.apply e = .ok w') : Redrawn w w' := by
  cases e with
  | insertNode n =>
    obtain ⟨hnew, rfl⟩ := insertNode_eq_ok_iff.1 h
    exact .added n.id hnew (by simp [ids]) rfl
  | eraseNode id =>
    obtain ⟨-, rfl⟩ := apply_eraseNode_eq_ok_iff.1 h
    exact .removed id (map_id_eraseP id w.nodes) rfl
  | connect s t =>
    obtain ⟨n, hs, ht, hst, hnew, hpath, rfl⟩ := connect_eq_ok_iff.1 h
    have hsm : s ∈ w.ids := isSome_node_iff.1 (by simp [hs])
    exact .joined s t hsm ht hst hnew hpath (map_id_modifyFirst (id_inheritPath n) t w.nodes) rfl
  | disconnect s t =>
    obtain ⟨-, rfl⟩ := disconnect_eq_ok_iff.1 h
    exact .parted ⟨s, t⟩ rfl rfl
  | patchSettings id patch =>
    obtain ⟨n, members, settings, -, -, -, rfl⟩ := patchSettings_eq_ok_iff.1 h
    exact .kept (map_id_modifyFirst (by intro; rfl) id w.nodes) rfl
  | recordRun id status output error => exact redrawn_of_modifyNode (by intro; rfl) h
  | storeConfigId id configId => exact redrawn_of_modifyNode (by intro; rfl) h

end DataPipeline.Workflow
