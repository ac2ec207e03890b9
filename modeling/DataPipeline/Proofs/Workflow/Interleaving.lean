import DataPipeline.Proofs.Validation.WellDrawn
import DataPipeline.Proofs.Workflow.Reports

/-!
# Editing while a workflow runs

User, engine and store make their calls in streams of their own. However these are interleaved, the
workflow ends up the same and every call gets the same reply, as long as the user neither adds nor
removes a node that the others report on.

A report can be put off until the edits of the other streams are made: it marks a node where they
neither look nor write. So every interleaving amounts to the edits of the user, then the reports of
the engine, then those of the store.

## Main definitions

* `Workflow.reply`, `Workflow.replies`: what calls return
* `Workflow.Spares`: edits that neither add nor remove a node with an id
* `Workflow.heard`: the successful reports of the engine on a node

## Main results

* `Workflow.attempt_touch`: a report can be put off by one edit
* `Workflow.run_eq_run_streams`: interleaved streams can be run one after the other
* `Workflow.run_eq_of_streams`: interleavings of the same streams
-/
namespace DataPipeline

open Workflow (modifyFirst patched)

/-! ## Marks and other changes -/

/-- How a run of a node went: its status, what it returned, and why it failed. -/
abbrev RunFeedback : Type := RunState × Option Json × Option String

/-- How the last run of the node went. -/
def Node.feedback (n : Node) : RunFeedback := (n.status, n.output, n.error)

namespace Edit

variable {e e' : Edit} {id : String}

/-- What is reported on the runs of the node with the id. -/
def feedbackOn (id : String) : Edit → Option RunFeedback
  | recordRun a status output error => if a = id then some (status, output, error) else none
  | _ => none

theorem feedback_mark (h : e.addressee = some id) (n : Node) :
    (e.mark n).feedback = (e.feedbackOn id).getD n.feedback := by
  cases e with
  | recordRun a status output error =>
    obtain rfl := Option.some.inj h
    simp [feedbackOn, mark, Node.feedback]
  | storeConfigId a configId => rfl
  | _ => cases h

theorem feedbackOn_eq_none (h : e.addressee ≠ some id ∨ e.stream ≠ .engine) :
    e.feedbackOn id = none := by
  cases e with
  | recordRun a status output error =>
    have ha : a ≠ id := by simpa [addressee, stream] using h
    exact if_neg ha
  | _ => rfl

theorem mark_mark (h : e.stream ≠ e'.stream) (n : Node) :
    e.mark (e'.mark n) = e'.mark (e.mark n) := by
  cases e <;> cases e' <;> first | rfl | exact absurd rfl h

theorem mark_patched (e : Edit) (settings : Settings) (keys : List String) (n : Node) :
    e.mark (patched settings keys n) = patched settings keys (e.mark n) := by
  cases e <;> rfl

theorem inheritPath_mark (e : Edit) (source n : Node) :
    source.inheritPath (e.mark n) = e.mark (source.inheritPath n) := by
  have hsame : source.inheritance (e.mark n) = source.inheritance n := by
    cases e <;> rfl
  rw [Node.inheritPath, hsame, Node.inheritPath]
  cases source.inheritance n <;> cases e <;> rfl

theorem mark_inheritPath (e : Edit) (source n : Node) :
    (e.mark source).inheritPath n = source.inheritPath n := by
  cases e <;> rfl

end Edit

namespace Workflow

variable {w : Workflow} {e v : Edit} {a id : String} {f g : Node → Node} {n : Node}
  {es vs : List Edit}

/-! ## Edits of the user after a report -/

theorem node_touch (hf : ∀ n, (f n).id = n.id) :
    (w.touch id f).node a = (w.node a).map fun n => if a = id then f n else n :=
  find?_modifyFirst hf

theorem touch_touch (hf : ∀ n, (f n).id = n.id) (hg : ∀ n, (g n).id = n.id)
    (hfg : ∀ n, f (g n) = g (f n)) (w : Workflow) (a b : String) :
    (w.touch b g).touch a f = (w.touch a f).touch b g :=
  congrArg (Workflow.mk · w.connections) (modifyFirst_comm hf hg hfg a b w.nodes)

@[simp] theorem ids_touch_mark (w : Workflow) (id : String) (e : Edit) :
    (w.touch id e.mark).ids = w.ids :=
  ids_touch e.id_mark w id

theorem insertNode_touch (h : n.id ∈ w.ids ∨ n.id ≠ id) :
    (w.touch id e.mark).insertNode n = (w.insertNode n).map (·.touch id e.mark) := by
  unfold insertNode
  simp only [isSome_node_iff, ids_touch_mark]
  split
  · rfl
  · rename_i hn
    simp [Except.map, touch, modifyFirst_append (h.resolve_left hn)]

theorem eraseNode_touch (h : a ∉ w.ids ∨ a ≠ id) :
    (w.touch id e.mark).eraseNode a =
      (w.eraseNode a).map fun r => (r.1, r.2.touch id e.mark) := by
  unfold eraseNode
  rw [node_touch e.id_mark]
  cases hn : w.node a with
  | none => rfl
  | some n =>
    have ha : a ≠ id := h.resolve_left fun hnot => hnot (isSome_node_iff.1 (by simp [hn]))
    simp [ha, Except.map, touch, eraseP_modifyFirst e.id_mark ha]

theorem connect_touch (w : Workflow) (id : String) (e : Edit) (s t : String) :
    (w.touch id e.mark).connect s t = (w.connect s t).map (·.touch id e.mark) := by
  have hgraph : (w.touch id e.mark).graph = w.graph := by simp [graph]
  unfold connect
  rw [node_touch e.id_mark, node_touch e.id_mark, hgraph, connections_touch]
  cases hs : w.node s with
  | none => rfl
  | some source =>
    cases ht : w.node t with
    | none => rfl
    | some target =>
      have hsource : (if s = id then e.mark source else source).inheritPath =
          source.inheritPath := by
        split
        · exact funext (e.mark_inheritPath source)
        · rfl
      have hnodes := modifyFirst_comm (id_inheritPath source) e.id_mark
        (fun n => e.inheritPath_mark source n) t id w.nodes
      simp only [Option.map_some, hsource]
      split_ifs
      · rfl
      · rfl
      · rfl
      · simp only [Except.map, touch, hnodes]

theorem disconnect_touch (w : Workflow) (id : String) (e : Edit) (s t : String) :
    (w.touch id e.mark).disconnect s t = (w.disconnect s t).map (·.touch id e.mark) := by
  unfold disconnect
  rw [connections_touch]
  split <;> rfl

theorem modifyNode_touch (hf : ∀ n, (f n).id = n.id) (hfe : ∀ n, e.mark (f n) = f (e.mark n))
    (w : Workflow) (a id : String) :
    (w.touch id e.mark).modifyNode a f = (w.modifyNode a f).map (·.touch id e.mark) := by
  rw [modifyNode_eq, modifyNode_eq, ids_touch_mark]
  split
  · exact congrArg Except.ok (touch_touch hf e.id_mark (fun n => (hfe n).symm) w a id)
  · rfl

theorem patchSettings_touch (w : Workflow) (id : String) (e : Edit) (a : String) (patch : Json) :
    (w.touch id e.mark).patchSettings a patch =
      (w.patchSettings a patch).map (·.touch id e.mark) := by
  unfold patchSettings
  rw [node_touch e.id_mark]
  cases hn : w.node a with
  | none => rfl
  | some n =>
    have hsettings : (if a = id then e.mark n else n).settings = n.settings := by
      split
      · exact e.settings_mark n
      · rfl
    cases patch with
    | obj members =>
      have hmerged : mergedSettings (if a = id then e.mark n else n) members =
          mergedSettings n members := by rw [mergedSettings, hsettings, mergedSettings]
      simp only [Option.map_some, Node.kind, hsettings, hmerged]
      cases Settings.ofJson n.settings.kind (mergedSettings n members) with
      | error cause => rfl
      | ok settings =>
        exact modifyNode_touch (by intro; rfl) (e.mark_patched settings (members.map (·.1))) w a id
    | _ => rfl

/-! ## Replies -/

/-- What a call returns: a node that was removed, nothing, or why it was rejected. -/
def reply (w : Workflow) : Edit → Except EditError (Option Node)
  | .eraseNode id => (fun r => some r.1) <$> w.eraseNode id
  | e => (fun _ => none) <$> w.apply e

/-- The calls of a sequence, each with what it returns. -/
def replies : Workflow → List Edit → List (Edit × Except EditError (Option Node))
  | _, [] => []
  | w, e :: es => (e, w.reply e) :: (w.attempt e).replies es

/-! ## Putting off a report -/

section PutOff

/-- A node that is added has another id. -/
theorem ne_of_insertNode (h : (w.attempt (.insertNode n)).ids.count id = w.ids.count id) :
    n.id ∈ w.ids ∨ n.id ≠ id := by
  by_cases hn : n.id ∈ w.ids
  · exact .inl hn
  · refine .inr ?_
    rintro rfl
    have hadd : w.apply (.insertNode n) = .ok { w with nodes := w.nodes ++ [n] } :=
      insertNode_eq_ok_iff.2 ⟨hn, rfl⟩
    rw [attempt_of_ok hadd] at h
    simp [ids] at h

/-- A node that is removed has another id. -/
theorem ne_of_eraseNode (h : (w.attempt (.eraseNode a)).ids.count id = w.ids.count id) :
    a ∉ w.ids ∨ a ≠ id := by
  by_cases ha : a ∈ w.ids
  · refine .inr ?_
    rintro rfl
    have hids : (w.attempt (.eraseNode a)).ids = w.ids.erase a := by
      rw [attempt_of_ok (apply_eraseNode_eq_ok_iff.2 ⟨ha, rfl⟩)]
      exact map_id_eraseP a w.nodes
    have hpos : 0 < w.ids.count a := List.count_pos_iff.2 ha
    rw [hids, List.count_erase_self] at h
    omega
  · exact .inl ha

variable (hv : v.stream ≠ e.stream) (hkept : (w.attempt v).ids.count id = w.ids.count id)

include hv hkept

/-- The step: a report can be put off by one edit of another stream that neither adds nor removes
the node. -/
theorem apply_touch :
    (w.touch id e.mark).apply v = (w.apply v).map (·.touch id e.mark) := by
  cases v with
  | insertNode n => exact insertNode_touch (ne_of_insertNode hkept)
  | eraseNode a =>
    rw [apply, apply, eraseNode_touch (ne_of_eraseNode hkept)]
    cases w.eraseNode a <;> rfl
  | connect s t => exact connect_touch w id e s t
  | disconnect s t => exact disconnect_touch w id e s t
  | patchSettings a patch => exact patchSettings_touch w id e a patch
  | recordRun a status output error =>
    exact modifyNode_touch (by intro; rfl) (e.mark_mark hv.symm) w a id
  | storeConfigId a configId =>
    exact modifyNode_touch (by intro; rfl) (e.mark_mark hv.symm) w a id

theorem attempt_touch : (w.touch id e.mark).attempt v = (w.attempt v).touch id e.mark := by
  rw [attempt, apply_touch hv hkept, attempt]
  cases w.apply v <;> rfl

theorem reply_touch : (w.touch id e.mark).reply v = w.reply v := by
  have happly := apply_touch hv hkept
  cases v with
  | eraseNode a =>
    rw [reply, reply, eraseNode_touch (ne_of_eraseNode hkept)]
    cases w.eraseNode a <;> rfl
  | _ =>
    simp only [reply, happly]
    cases w.apply _ <;> rfl

end PutOff

/-! ## Putting off a report until later -/

/-- The edits neither add nor remove a node with the id. -/
def Spares (id : String) : Workflow → List Edit → Prop
  | _, [] => True
  | w, e :: es => (w.attempt e).ids.count id = w.ids.count id ∧ Spares id (w.attempt e) es

instance decidableSpares (id : String) :
    (w : Workflow) → (es : List Edit) → Decidable (Spares id w es)
  | _, [] => isTrue trivial
  | w, e :: es =>
    have := decidableSpares id (w.attempt e) es
    inferInstanceAs (Decidable (_ ∧ _))

theorem spares_append : Spares id w (es ++ vs) ↔ Spares id w es ∧ Spares id (w.run es) vs := by
  induction es generalizing w with
  | nil => simp [Spares, run]
  | cons e es ih => rw [List.cons_append, Spares, Spares, ih, run_cons, and_assoc]

theorem Spares.count_ids_run (h : Spares id w es) : (w.run es).ids.count id = w.ids.count id := by
  induction es generalizing w with
  | nil => rfl
  | cons e es ih => rw [run_cons, ih h.2, h.1]

/-- Reports leave all ids alone. -/
theorem spares_of_reports (hes : ∀ e ∈ es, e.stream ≠ .user) : Spares id w es := by
  induction es generalizing w with
  | nil => trivial
  | cons e es ih =>
    obtain ⟨a, ha⟩ := Edit.exists_addressee (hes e (.head es))
    refine ⟨?_, ih fun e he => hes e (.tail _ he)⟩
    rw [attempt_eq_touch ha, ids_touch_mark]

section PutOff

variable (hvs : ∀ v ∈ vs, v.stream ≠ e.stream) (h : Spares id w vs)

include hvs h

/-- The run: by induction on the edits that are made first. -/
theorem run_touch : (w.touch id e.mark).run vs = (w.run vs).touch id e.mark := by
  induction vs generalizing w with
  | nil => rfl
  | cons v vs ih =>
    obtain ⟨hv, hvs⟩ := List.forall_mem_cons.1 hvs
    rw [run_cons, attempt_touch hv h.1, ih hvs h.2, run_cons]

theorem replies_touch : (w.touch id e.mark).replies vs = w.replies vs := by
  induction vs generalizing w with
  | nil => rfl
  | cons v vs ih =>
    obtain ⟨hv, hvs⟩ := List.forall_mem_cons.1 hvs
    rw [replies, reply_touch hv h.1, attempt_touch hv h.1, ih hvs h.2, replies]

theorem spares_touch (ha : Spares a w vs) : Spares a (w.touch id e.mark) vs := by
  induction vs generalizing w with
  | nil => trivial
  | cons v vs ih =>
    obtain ⟨hv, hvs⟩ := List.forall_mem_cons.1 hvs
    rw [Spares, attempt_touch hv h.1, ids_touch_mark, ids_touch_mark]
    exact ⟨ha.1, ih hvs h.2 ha.2⟩

/-- A report that comes first may as well come after edits of other streams. -/
theorem run_attempt_append (hid : e.addressee = some id) (es : List Edit) :
    (w.attempt e).run (vs ++ es) = w.run (vs ++ e :: es) := by
  rw [attempt_eq_touch hid, run_append, run_touch hvs h, run_append, run_cons,
    attempt_eq_touch hid]

end PutOff

/-! ## Streams -/

/-- No edit of the user adds or removes a node that a report of the sequence is about. -/
def Undisturbed (w : Workflow) (es : List Edit) : Prop :=
  ∀ e ∈ es, ∀ id ∈ e.addressee, Spares id w (Stream.user.calls es)

instance (w : Workflow) (es : List Edit) : Decidable (w.Undisturbed es) :=
  inferInstanceAs (Decidable (∀ e ∈ es, ∀ id ∈ e.addressee, Spares id w (Stream.user.calls es)))

namespace Undisturbed

theorem spares (h : w.Undisturbed (e :: es)) (hid : e.addressee = some id) :
    Spares id w (Stream.user.calls es) := by
  have he : e.stream ≠ .user := fun he => by
    simp [Edit.addressee_eq_none_iff.2 he] at hid
  have hspares := h e (.head es) id hid
  rwa [Stream.calls_cons_of_ne he] at hspares

/-- What holds at the beginning holds after the first edit. -/
theorem tail (h : w.Undisturbed (e :: es)) : (w.attempt e).Undisturbed es := by
  intro v hv id hid
  have hspares := h v (.tail e hv) id hid
  by_cases he : e.stream = .user
  · rw [Stream.calls_cons_self he] at hspares
    exact hspares.2
  · obtain ⟨a, ha⟩ := Edit.exists_addressee he
    rw [Stream.calls_cons_of_ne he] at hspares
    rw [attempt_eq_touch ha]
    exact spares_touch (Stream.ne_of_mem_calls he) (h.spares ha) hspares

/-- The first edit neither adds nor removes a node that a later report is about. -/
theorem mem_ids_attempt (h : w.Undisturbed (e :: es)) (hv : v ∈ es)
    (hid : v.addressee = some id) : id ∈ (w.attempt e).ids ↔ id ∈ w.ids := by
  by_cases he : e.stream = .user
  · have hspares := h v (.tail e hv) id hid
    rw [Stream.calls_cons_self he] at hspares
    rw [← List.count_pos_iff, ← List.count_pos_iff, hspares.1]
  · obtain ⟨a, ha⟩ := Edit.exists_addressee he
    rw [attempt_eq_touch ha, ids_touch_mark]

end Undisturbed

/-- Instead of an interleaving its streams can be run one after the other. -/
theorem run_eq_run_streams (h : w.Undisturbed es) :
    w.run es =
      w.run (Stream.user.calls es ++ (Stream.engine.calls es ++ Stream.store.calls es)) := by
  induction es generalizing w with
  | nil => rfl
  | cons e es ih =>
    rw [run_cons, ih h.tail]
    cases he : e.stream with
    | user => simp [Stream.calls, he, run_cons]
    | engine =>
      obtain ⟨id, hid⟩ := Edit.exists_addressee (e := e) (by simp [he])
      rw [run_attempt_append (Stream.ne_of_mem_calls (by simp [he])) (h.spares hid) hid]
      simp [Stream.calls, he]
    | store =>
      obtain ⟨id, hid⟩ := Edit.exists_addressee (e := e) (by simp [he])
      have hreports : ∀ v ∈ Stream.engine.calls es, v.stream ≠ .user :=
        Stream.ne_of_mem_calls (by simp)
      rw [← List.append_assoc, run_attempt_append (List.forall_mem_append.2
        ⟨Stream.ne_of_mem_calls (by simp [he]), Stream.ne_of_mem_calls (by simp [he])⟩)
        (spares_append.2 ⟨h.spares hid, spares_of_reports hreports⟩) hid]
      simp [Stream.calls, he]

/-! ## Replies in an interleaving -/

/-- The user gets the replies that there would be without reports. -/
theorem replies_user (h : w.Undisturbed es) :
    (w.replies es).filter (·.1.stream = .user) = w.replies (Stream.user.calls es) := by
  induction es generalizing w with
  | nil => rfl
  | cons e es ih =>
    by_cases he : e.stream = .user
    · rw [Stream.calls_cons_self he, replies, replies, List.filter_cons_of_pos (by simpa using he),
        ih h.tail]
    · obtain ⟨id, hid⟩ := Edit.exists_addressee he
      rw [Stream.calls_cons_of_ne he, replies, List.filter_cons_of_neg (by simpa using he),
        ih h.tail, attempt_eq_touch hid, replies_touch (Stream.ne_of_mem_calls he) (h.spares hid)]

theorem reply_report (hid : e.addressee = some id) :
    w.reply e = if id ∈ w.ids then .ok none else .error (.unknownNode id) := by
  have happly := apply_report (w := w) hid
  cases e with
  | recordRun a status output error =>
    simp only [reply, happly]
    split <;> rfl
  | storeConfigId a configId =>
    simp only [reply, happly]
    split <;> rfl
  | _ => cases hid

/-- Engine and store get the replies that there would be at the beginning. -/
theorem replies_reports {s : Stream} (hs : s ≠ .user) (h : w.Undisturbed es) :
    (w.replies es).filter (·.1.stream = s) = (s.calls es).map fun e => (e, w.reply e) := by
  induction es generalizing w with
  | nil => rfl
  | cons e es ih =>
    have hlater : (s.calls es).map (fun v => (v, (w.attempt e).reply v)) =
        (s.calls es).map fun v => (v, w.reply v) := by
      refine List.map_congr_left fun v hv => ?_
      obtain ⟨hmem, hstream⟩ := List.mem_filter.1 hv
      obtain ⟨id, hid⟩ := Edit.exists_addressee (e := v) (by simp_all)
      rw [reply_report hid, reply_report hid]
      simp only [h.mem_ids_attempt hmem hid]
    by_cases he : e.stream = s
    · rw [Stream.calls_cons_self he, replies, List.filter_cons_of_pos (by simpa using he),
        ih h.tail, hlater, List.map_cons]
    · rw [Stream.calls_cons_of_ne he, replies, List.filter_cons_of_neg (by simpa using he),
        ih h.tail, hlater]

/-! ## What the engine reports -/

/-- What the engine reports successfully on the node with the id, in order. -/
def heard (w : Workflow) (id : String) (es : List Edit) : List RunFeedback :=
  (w.replies es).filterMap fun r => if r.2.isOk then r.1.feedbackOn id else none

/-- A node shows the last report on it. -/
theorem feedback_node_run (id : String) (hes : ∀ e ∈ es, e.stream ≠ .user) :
    ((w.run es).node id).map Node.feedback =
      (w.node id).map fun n => (es.filterMap (·.feedbackOn id)).getLast?.getD n.feedback := by
  induction es generalizing w with
  | nil => rfl
  | cons e es ih =>
    obtain ⟨a, ha⟩ := Edit.exists_addressee (hes e (.head es))
    rw [run_cons, ih fun v hv => hes v (.tail _ hv), attempt_eq_touch ha, node_touch e.id_mark,
      Option.map_map]
    refine congrArg (Option.map · (w.node id)) (funext fun n => ?_)
    have hmark : (if id = a then e.mark n else n).feedback =
        (e.feedbackOn id).getD n.feedback := by
      split
      · rename_i heq
        exact e.feedback_mark (heq ▸ ha) n
      · rename_i hne
        rw [Edit.feedbackOn_eq_none (.inl (by simp [ha, Ne.symm hne])), Option.getD_none]
    rw [Function.comp_apply, hmark]
    cases hfeedback : e.feedbackOn id with
    | none => rw [List.filterMap_cons_none hfeedback, Option.getD_none]
    | some f =>
      rw [List.filterMap_cons_some hfeedback, List.getLast?_cons, Option.getD_some,
        Option.getD_some]

/-- The engine is heard as it would be at the beginning. -/
theorem heard_eq (h : w.Undisturbed es) : w.heard id es =
    (Stream.engine.calls es).filterMap fun e =>
      if (w.reply e).isOk then e.feedbackOn id else none := by
  have hreplies := replies_reports (s := .engine) (by simp) h
  have hheard : w.heard id es = ((w.replies es).filter (·.1.stream = .engine)).filterMap
      fun r => if r.2.isOk then r.1.feedbackOn id else none := by
    rw [List.filterMap_filter, heard]
    refine List.filterMap_congr fun r _ => ?_
    by_cases hr : r.1.stream = .engine
    · simp [hr]
    · simp [hr, Edit.feedbackOn_eq_none (.inr hr)]
  rw [hheard, hreplies, List.filterMap_map]
  rfl

/-- The engine is heard on a node if the node is there. -/
theorem heard_of_mem (h : w.Undisturbed es) (hid : id ∈ w.ids) :
    w.heard id es = (Stream.engine.calls es).filterMap (·.feedbackOn id) := by
  rw [heard_eq h]
  refine List.filterMap_congr fun e _ => ?_
  by_cases he : e.addressee = some id
  · simp [reply_report he, hid, Except.isOk, Except.toBool]
  · simp [Edit.feedbackOn_eq_none (.inl he)]

theorem exists_of_mem_heard (h : w.Undisturbed es) {f : RunFeedback} (hf : f ∈ w.heard id es) :
    ∃ e ∈ es, e.addressee = some id ∧ id ∈ w.ids := by
  rw [heard_eq h] at hf
  obtain ⟨e, he, hef⟩ := List.mem_filterMap.1 hf
  have hid : e.addressee = some id := by
    by_contra hne
    simp [Edit.feedbackOn_eq_none (.inl hne)] at hef
  refine ⟨e, (List.mem_filter.1 he).1, hid, ?_⟩
  by_contra hnot
  simp [reply_report hid, hnot, Except.isOk, Except.toBool] at hef

/-- What is heard last is what the node shows in the end. -/
theorem feedback_of_heard (h : w.Undisturbed es) {f : RunFeedback}
    (hf : (w.heard id es).getLast? = some f) :
    ∃ n, (w.run es).node id = some n ∧ n.feedback = f := by
  obtain ⟨e, he, haddressee, hid⟩ := exists_of_mem_heard h (List.mem_of_getLast? hf)
  rw [heard_of_mem h hid] at hf
  -- the user leaves the node in place, and the store leaves what it shows alone
  obtain ⟨n, hn⟩ : ∃ n, (w.run (Stream.user.calls es)).node id = some n := by
    refine exists_node ?_
    rw [← List.count_pos_iff, (h e he id haddressee).count_ids_run]
    exact List.count_pos_iff.2 hid
  have hstore : (Stream.store.calls es).filterMap (·.feedbackOn id) = [] :=
    List.filterMap_eq_nil_iff.2 fun e he =>
      Edit.feedbackOn_eq_none (.inr (Stream.ne_of_mem_calls (by simp) e he))
  have hreports : ∀ e ∈ Stream.engine.calls es ++ Stream.store.calls es, e.stream ≠ .user :=
    List.forall_mem_append.2
      ⟨Stream.ne_of_mem_calls (by simp), Stream.ne_of_mem_calls (by simp)⟩
  have hnode := feedback_node_run (w := w.run (Stream.user.calls es)) id hreports
  rw [← run_append, ← run_eq_run_streams h, hn, List.filterMap_append, hstore, List.append_nil,
    hf] at hnode
  exact Option.map_eq_some_iff.1 hnode

/-- Interleavings of the same streams end in the same workflow, and every call gets the same reply
in both; the run of a node went as the engine reported last, where it was heard. -/
theorem run_eq_of_streams {es es' : List Edit} (hes : ∀ s : Stream, s.calls es = s.calls es')
    (h : w.Undisturbed es) :
    w.run es = w.run es' ∧
      (∀ s : Stream, (w.replies es).filter (·.1.stream = s) =
        (w.replies es').filter (·.1.stream = s)) ∧
      ∀ id f, (w.heard id es).getLast? = some f →
        ∃ n, (w.run es).node id = some n ∧ n.feedback = f := by
  have h' : w.Undisturbed es' := by
    intro e he id hid
    have hmem : e ∈ e.stream.calls es := by
      rw [hes]
      exact List.mem_filter.2 ⟨he, by simp⟩
    rw [← hes]
    exact h e (List.mem_filter.1 hmem).1 id hid
  refine ⟨?_, fun s => ?_, fun id f => feedback_of_heard h⟩
  · rw [run_eq_run_streams h, run_eq_run_streams h', hes, hes, hes]
  · by_cases hs : s = .user
    · rw [hs, replies_user h, replies_user h', hes]
    · rw [replies_reports hs h, replies_reports hs h', hes]

/-- A copy is drawn behind the reader, and only then the reader is run and its task stored. -/
def drawnThenRun : List Edit :=
  [.insertNode { id := "copy", settings := .copyFile {} }, .connect "in" "copy", .eraseNode "end",
    .recordRun "in" .running none none, .recordRun "in" .success (some (.str "4 rows")) none,
    .recordRun "lost" .error none none, .storeConfigId "in" "7"]

/-- The same while the reader runs. -/
def drawnWhileRun : List Edit :=
  [.recordRun "in" .running none none, .insertNode { id := "copy", settings := .copyFile {} },
    .storeConfigId "in" "7", .recordRun "in" .success (some (.str "4 rows")) none,
    .connect "in" "copy", .recordRun "lost" .error none none, .eraseNode "end"]

theorem run_eq_of_streams_transfer :
    (transfer "csv").run drawnThenRun = (transfer "csv").run drawnWhileRun ∧
      (∀ s : Stream, ((transfer "csv").replies drawnThenRun).filter (·.1.stream = s) =
        ((transfer "csv").replies drawnWhileRun).filter (·.1.stream = s)) ∧
      ∃ n, ((transfer "csv").run drawnThenRun).node "in" = some n ∧
        n.feedback = (.success, some (.str "4 rows"), none) := by
  have hes (s : Stream) : s.calls drawnThenRun = s.calls drawnWhileRun := by cases s <;> rfl
  have h : (transfer "csv").Undisturbed drawnThenRun := by decide +kernel
  have hheard : ((transfer "csv").heard "in" drawnThenRun).getLast? =
      some (.success, some (.str "4 rows"), none) := by decide +kernel
  obtain ⟨hrun, hreplies, hlast⟩ := run_eq_of_streams hes h
  exact ⟨hrun, hreplies, hlast "in" _ hheard⟩

end Workflow

end DataPipeline
