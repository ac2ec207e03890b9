import DataPipeline.Proofs.Plan.Compilation
import DataPipeline.Proofs.Task.WellFormed

/-!
# Plans of well-formed tasks

A plan holds nothing that the engine could stumble over: each of its tasks is well formed with
respect to the settings that it is made from, and conversions belong to the DAG of the plan.

## Main definitions

* `Conversion.WellFormed`, `Task.WellFormed`

## Main results

* `Workflow.wellFormed_of_compile`
-/
namespace DataPipeline

/-- A conversion between two nodes for a DAG. -/
structure Conversion.WellFormed (r s : Node) (dagId : String) (t : Conversion) : Prop where
  input : t.input.WellFormed r
  output : t.output.WellFormed s
  clauses : Clauses.WellFormed ⟨t.filter, t.orderBy, t.aggregation⟩
  dagId : t.dagId = dagId

/-- The task of a node is judged by the settings of the node, and that of a source by both ends of
its chain. -/
inductive Task.WellFormed (w : Workflow) (dagId : String) (n : Node) : Task → Prop
  | conversion {s : Node} {t : Conversion} (hn : n.isSource = true) (hs : s ∈ w.nodes)
      (hsink : s.isSink = true) (h : t.WellFormed n s dagId) : WellFormed w dagId n (.conversion t)
  | fileCommand {t : FileCommand} (h : t.WellFormed) : WellFormed w dagId n (.fileCommand t)
  | salesforceQuery {s : SalesforceReadSettings} {t : SalesforceQuery}
      (hn : n.settings = .salesforceRead s) (h : t.WellFormed s) :
      WellFormed w dagId n (.salesforceQuery t)
  | salesforceLoad {s : SalesforceWriteSettings} {t : SalesforceLoad}
      (hn : n.settings = .salesforceWrite s) (h : t.WellFormed s) :
      WellFormed w dagId n (.salesforceLoad t)
  | timer {s : SchedulerSettings} {t : Timer} (hn : n.settings = .scheduler s)
      (h : t.WellFormed s) : WellFormed w dagId n (.timer t)

theorem Converts.wellFormed {options : PlanOptions} {r s : Node} {f : Option Node} {t : Conversion}
    (h : Converts options r s f t) : t.WellFormed r s options.dagId where
  input := Node.wellFormed_of_conversionInput h.input
  output := Node.wellFormed_of_conversionOutput h.output
  clauses := Node.wellFormed_of_clausesOf h.clauses
  dagId := h.dagId

namespace Workflow

variable {w : Workflow} {options : PlanOptions} {n : Node}

theorem wellFormed_of_ownTask {t : Task} (h : n.OwnTask options options.dagId t) :
    t.WellFormed w options.dagId n := by
  cases h with
  | fileCommand h => exact .fileCommand (Node.wellFormed_of_fileCommand h)
  | salesforceQuery h =>
    obtain ⟨s, hs, hquery⟩ := Node.wellFormed_of_salesforceQuery h
    exact .salesforceQuery hs hquery
  | salesforceLoad h =>
    obtain ⟨s, hs, hload⟩ := Node.wellFormed_of_salesforceLoad h
    exact .salesforceLoad hs hload
  | timer h =>
    obtain ⟨s, hs, htimer⟩ := Node.wellFormed_of_timer options.hasContent_dagId h
    exact .timer hs htimer

theorem Assigned.wellFormed {a : Assignment} (h : w.Assigned options n a) :
    a.task.WellFormed w options.dagId n := by
  cases h with
  | conversion _ hlinks ht =>
    exact .conversion hlinks.isSource hlinks.write hlinks.isSink ht.wellFormed
  | own _ ht => exact wellFormed_of_ownTask (Node.ownTask_of_task_eq_some ht)

/-- Whatever is half edited, mistyped or left out in a workflow and its options, each task that a
plan has is well formed. -/
theorem wellFormed_of_compile {p : Plan} (h : w.compile options = .ok p) :
    ∀ a ∈ p.assignments, ∃ n ∈ w.nodes, n.id = a.nodeId ∧
      a.task.WellFormed w p.dag.dagId n := by
  intro a ha
  obtain ⟨n, hn, hna⟩ := exists_assigned_of_compile h ha
  have hid : p.dag.dagId = options.dagId := congrArg Dag.dagId (compile_eq_ok_iff.1 h).2.2
  exact ⟨n, hn, hna.nodeId.symm, hid ▸ hna.wellFormed⟩

theorem wellFormed_transfer : ∃ p, (transfer "csv").compile {} = .ok p ∧ p.assignments.length = 1 ∧
    ∀ a ∈ p.assignments, ∃ n ∈ (transfer "csv").nodes, n.id = a.nodeId ∧
      a.task.WellFormed (transfer "csv") p.dag.dagId n :=
  ⟨_, rfl, rfl, wellFormed_of_compile rfl⟩

end Workflow

end DataPipeline
