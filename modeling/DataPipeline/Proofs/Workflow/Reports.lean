import DataPipeline.Proofs.Workflow.Editing

/-!
# Reports from outside

Three parties work on a workflow: the user draws it, the engine reports how its nodes ran, and the
store under which ids their tasks are kept. A report marks the first node with an id, if there is
one, in places that no edit of the user looks at or writes to.

## Main definitions

* `Stream`, `Edit.stream`: who makes an edit
* `Edit.addressee`, `Edit.mark`: the node that a report is about, and what it writes there

## Main results

* `Workflow.attempt_eq_touch`: the workflow after a report
-/
namespace DataPipeline

open Workflow (modifyFirst patched)

/-- Who makes an edit. -/
inductive Stream where
  | user
  | engine
  | store
deriving DecidableEq

namespace Edit

variable {e : Edit}

def stream : Edit → Stream
  | recordRun _ _ _ _ => .engine
  | storeConfigId _ _ => .store
  | _ => .user

/-- The id of the node that a report is about. -/
def addressee : Edit → Option String
  | recordRun id _ _ _ | storeConfigId id _ => some id
  | _ => none

/-- What a report writes on its node. -/
def mark : Edit → Node → Node
  | recordRun _ status output error, n =>
    { n with status := status, output := output, error := error }
  | storeConfigId _ configId, n => { n with configId := some configId }
  | _, n => n

theorem addressee_eq_none_iff : e.addressee = none ↔ e.stream = .user := by
  cases e <;> simp [addressee, stream]

theorem exists_addressee (h : e.stream ≠ .user) : ∃ id, e.addressee = some id :=
  Option.ne_none_iff_exists'.1 fun hnone => h (addressee_eq_none_iff.1 hnone)

/-! ## Marks -/

@[simp] theorem id_mark (e : Edit) (n : Node) : (e.mark n).id = n.id := by
  cases e <;> rfl

@[simp] theorem settings_mark (e : Edit) (n : Node) : (e.mark n).settings = n.settings := by
  cases e <;> rfl

@[simp] theorem editedFields_mark (e : Edit) (n : Node) :
    (e.mark n).editedFields = n.editedFields := by
  cases e <;> rfl

end Edit

/-! ## Streams -/

/-- The calls of a stream, in its own order. -/
def Stream.calls (s : Stream) (es : List Edit) : List Edit := es.filter (·.stream = s)

namespace Stream

variable {s : Stream} {e : Edit} {es : List Edit}

theorem calls_cons_self (h : e.stream = s) : s.calls (e :: es) = e :: s.calls es :=
  List.filter_cons_of_pos (by simpa using h)

theorem calls_cons_of_ne (h : e.stream ≠ s) : s.calls (e :: es) = s.calls es :=
  List.filter_cons_of_neg (by simpa using h)

/-- The calls of a stream are of no other one. -/
theorem ne_of_mem_calls {s' : Stream} (h : s' ≠ s) : ∀ e ∈ s.calls es, e.stream ≠ s' := by
  intro e he heq
  have hs : e.stream = s := by simpa using (List.mem_filter.1 he).2
  exact h (heq.symm.trans hs)

end Stream

namespace Workflow

variable {w : Workflow} {e : Edit} {id : String} {f : Node → Node}

/-! ## The workflow after a report -/

/-- The workflow with its first node of an id changed, if there is one. -/
def touch (w : Workflow) (id : String) (f : Node → Node) : Workflow :=
  { w with nodes := modifyFirst id f w.nodes }

@[simp] theorem connections_touch (w : Workflow) (id : String) (f : Node → Node) :
    (w.touch id f).connections = w.connections := rfl

theorem ids_touch (hf : ∀ n, (f n).id = n.id) (w : Workflow) (id : String) :
    (w.touch id f).ids = w.ids :=
  map_id_modifyFirst hf id w.nodes

/-- A change to a node that is not there is rejected, and changes nothing anyway. -/
theorem modifyNode_eq (w : Workflow) (id : String) (f : Node → Node) :
    w.modifyNode id f = if id ∈ w.ids then .ok (w.touch id f) else .error (.unknownNode id) := by
  simp [modifyNode, isSome_node_iff, touch]

theorem apply_report (h : e.addressee = some id) :
    w.apply e = if id ∈ w.ids then .ok (w.touch id e.mark) else .error (.unknownNode id) := by
  cases e with
  | recordRun id' status output error =>
    obtain rfl := Option.some.inj h
    exact modifyNode_eq w id' _
  | storeConfigId id' configId =>
    obtain rfl := Option.some.inj h
    exact modifyNode_eq w id' _
  | _ => cases h

theorem attempt_eq_touch (h : e.addressee = some id) : w.attempt e = w.touch id e.mark := by
  rw [attempt, apply_report h]
  split_ifs with hid
  · rfl
  · rw [touch, modifyFirst_eq_self hid]

end Workflow

end DataPipeline
