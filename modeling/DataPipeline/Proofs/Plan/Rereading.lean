import DataPipeline.Proofs.Plan.Compilation
import DataPipeline.Proofs.Task.Rereading

/-!
# Plans that are read again

The engine gets a plan as a document. It reads the DAG and every task as they were, even when the
members of objects have changed their places on the way. Only the untyped values of a task must have
come through as they are.

## Main results

* `Workflow.survives_of_compile`: a plan that was rearranged is read again
* `Workflow.rereads_of_compile`: a plan is read again from what is written for it
-/
namespace DataPipeline

open Codec DataPipeline.Field Json

/-! ## DAGs -/

theorem Kind.survives (k : Kind) : codec.Survives k :=
  survives_choice (by cases k <;> decide)

theorem Dag.Entry.survives (e : Dag.Entry) : codec.Survives e :=
  survives_record (by decide) rfl
    (Layout.keeps_make
      |>.field (keeps_required (survives_text _))
      |>.field (keeps_required (Kind.survives _))
      |>.field (keeps_nullable fun s _ => ⟨survives_text s, fun h => by cases h⟩)
      |>.field (keeps_required (.list fun _ _ => survives_text _)))

theorem Dag.survives (d : Dag) : codec.Survives d :=
  survives_record (by decide) rfl
    (Layout.keeps_make
      |>.field (keeps_required (survives_text _))
      |>.field (keeps_required (survives_text _))
      |>.field (keeps_text _)
      |>.field (keeps_required (survives_boolean _))
      |>.field (keeps_required (.list fun e _ => e.survives)))

/-! ## Tasks of plans -/

namespace Workflow

variable {w : Workflow} {options : PlanOptions} {p : Plan}

/-- Only a conversion has conditions, and those come from a mapper. -/
theorem Assigned.definite {n : Node} {a : Assignment} (h : w.Assigned options n a) :
    a.task.Definite := by
  cases h with
  | conversion _ _ ht => exact Node.definite_of_clausesOf ht.clauses
  | own _ ht => cases Node.ownTask_of_task_eq_some ht <;> trivial

theorem definite_of_compile (h : w.compile options = .ok p) :
    ∀ a ∈ p.assignments, a.task.Definite := by
  intro a ha
  obtain ⟨n, -, hn⟩ := exists_assigned_of_compile h ha
  exact hn.definite

/-- A plan that was rearranged is read again, if the untyped values of its tasks are what they
were. -/
theorem survives_of_compile (h : w.compile options = .ok p) {t : Json → Json} (ht : Rearranges t)
    (hfix : ∀ a ∈ p.assignments, ∀ j ∈ a.task.untyped, t j = j) :
    Dag.codec.ofJson (t (Dag.codec.toJson p.dag)) = .ok p.dag ∧
      ∀ a ∈ p.assignments, Task.ofJson a.task.kind (t a.task.toJson) = .ok a.task :=
  ⟨p.dag.survives t ht, fun a ha =>
    Task.ofJson_toJson ht (definite_of_compile h a ha) (hfix a ha)⟩

/-- What the engine reads is what was planned: the DAG, and every task as one of its kind. -/
theorem rereads_of_compile (h : w.compile options = .ok p) :
    Dag.codec.ofJson (Dag.codec.toJson p.dag) = .ok p.dag ∧
      ∀ a ∈ p.assignments, Task.ofJson a.task.kind a.task.toJson = .ok a.task :=
  survives_of_compile h rearranges_id fun _ _ _ _ => rfl

theorem rereads_transfer : ∃ p, (transfer "csv").compile {} = .ok p ∧ p.assignments.length = 1 ∧
    Dag.codec.ofJson (Dag.codec.toJson p.dag) = .ok p.dag ∧
      ∀ a ∈ p.assignments, Task.ofJson a.task.kind a.task.toJson = .ok a.task := by
  obtain ⟨p, hp, hlength⟩ : ∃ p, (transfer "csv").compile {} = .ok p ∧ p.assignments.length = 1 :=
    ⟨_, rfl, rfl⟩
  exact ⟨p, hp, hlength, rereads_of_compile hp⟩

end Workflow

end DataPipeline
