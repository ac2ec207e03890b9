import DataPipeline.Proofs.Task.Blame
import DataPipeline.Task.Conversion
import Mathlib.Tactic.SplitIfs

/-!
# The roles of nodes

A node has one role at most: it is a source, a sink or a filter, or it has a task of its own. Only
the mapper of its role has anything to say about a node.

## Main definitions

* `Node.hasOwnTask`: nodes that work on files, talk to Salesforce or wait for a time
* `Node.role`: the role of a node
* `Node.complaint`: what the mapper of its role objects to in a node
* `Node.objection`: the same for the DAG of the plan
* `Node.OwnTask`: the mapper that a task of a node comes from

## Main results

* `Node.plays_only`: roles exclude each other
* `Node.nodeId_of_objection`: an objection names its node
* `Node.exists_conversionInput` and its like: what a mapper yields when nothing is objected to
-/
namespace DataPipeline

/-- The error of a result, if it is one. -/
def MapError.ofResult {α : Type} : Except MapError α → Option MapError
  | .error e => some e
  | .ok _ => none

theorem MapError.ofResult_eq_none_iff {α : Type} {x : Except MapError α} :
    ofResult x = none ↔ ∃ a, x = .ok a := by
  cases x <;> simp [ofResult]

theorem MapError.ofResult_eq_some_iff {α : Type} {x : Except MapError α} {e : MapError} :
    ofResult x = some e ↔ x = .error e := by
  cases x <;> simp [ofResult]

theorem MapError.exists_of_ofResult_eq_none {α : Type} {x : Except MapError (Option α)}
    (h : ofResult x = none) (hne : x ≠ .ok none) : ∃ a, x = .ok (some a) := by
  obtain ⟨_ | a, ha⟩ := ofResult_eq_none_iff.1 h
  · exact absurd ha hne
  · exact ⟨a, ha⟩

theorem MapError.ofResult_map {α β : Type} (f : α → β) (x : Except MapError α) :
    ofResult (f <$> x) = ofResult x := by
  cases x <;> rfl

namespace Node

variable {n : Node} {options : PlanOptions} {dagId : String} {e : MapError}

/-- The nodes with a task of their own. -/
def hasOwnTask (n : Node) : Bool :=
  match n.kind with
  | .copyFile | .renameFile | .deleteFile | .code => true
  | .salesforceRead | .salesforceWrite | .scheduler => true
  | _ => false

/-- What the mapper of its role objects to in a node, given the DAG that a task is for: sources are
mapped to inputs, sinks to outputs, filters to clauses, and all other nodes to tasks of their
own. -/
def complaint (n : Node) (options : PlanOptions) (dagId : String) : Option MapError :=
  if n.isSource then MapError.ofResult n.conversionInput
  else if n.isSink then MapError.ofResult n.conversionOutput
  else if n.isFilter then MapError.ofResult n.clauses
  else MapError.ofResult (n.task options dagId)

/-- What the mapper of its role objects to in a node, given the options of a plan. -/
def objection (n : Node) (options : PlanOptions) : Option MapError :=
  n.complaint options options.dagId

/-! ## Roles exclude each other -/

/-- What a node can be in a plan. -/
inductive Role where
  | source
  | sink
  | filter
  | ownTask
deriving DecidableEq

/-- The role of a node; the ends of a workflow have none. A database is a source or a sink by its
access. -/
def role (n : Node) : Option Role :=
  match n.settings with
  | .start _ | .finish _ => none
  | .readFile _ | .inlineInput _ => some .source
  | .writeFile _ | .inlineOutput _ => some .sink
  | .database s => some (match s.access with | .read => .source | .write => .sink)
  | .filter _ => some .filter
  | _ => some .ownTask

/-- Whether a node has a role, as the mappers ask for it. -/
def plays (n : Node) : Role → Bool
  | .source => n.isSource
  | .sink => n.isSink
  | .filter => n.isFilter
  | .ownTask => n.hasOwnTask

theorem plays_eq (n : Node) (b : Role) : n.plays b = decide (n.role = some b) := by
  obtain ⟨_, settings, _⟩ := n
  cases settings with
  | database s =>
    obtain ⟨_, access, _⟩ := s
    cases access <;> cases b <;> rfl
  | _ => cases b <;> rfl

/-- A node that plays one role plays no other. -/
theorem plays_only (a : Role) (h : n.plays a = true) (b : Role) :
    n.plays b = decide (b = a) := by
  have hrole : n.role = some a := of_decide_eq_true ((n.plays_eq a).symm.trans h)
  rw [plays_eq, hrole]
  simp [eq_comm]

/-! ## Mappers of other roles -/

theorem conversionInput_of_not_isSource (h : n.isSource = false) :
    n.conversionInput = .ok none := by
  cases hs : n.settings <;> simp_all [conversionInput, isSource, Settings.isSource]

theorem conversionOutput_of_not_isSink (h : n.isSink = false) :
    n.conversionOutput = .ok none := by
  cases hs : n.settings <;> simp_all [conversionOutput, isSink, Settings.isSink]

theorem clauses_of_not_isFilter (h : n.isFilter = false) : n.clauses = .ok {} := by
  cases hs : n.settings <;> simp_all [clauses, isFilter, Settings.isFilter]

theorem task_of_not_hasOwnTask (h : n.hasOwnTask = false) (dagId : String) :
    n.task options dagId = .ok none := by
  have hcommand : n.fileCommand options.executedBy = .ok none := by
    cases hs : n.settings <;> simp_all [hasOwnTask, kind, Settings.kind, fileCommand]
  have hquery : n.salesforceQuery = .ok none := by
    cases hs : n.settings <;> simp_all [hasOwnTask, kind, Settings.kind, salesforceQuery]
  have hload : n.salesforceLoad = .ok none := by
    cases hs : n.settings <;> simp_all [hasOwnTask, kind, Settings.kind, salesforceLoad]
  have htimer : n.timer dagId = .ok none := by
    cases hs : n.settings <;> simp_all [hasOwnTask, kind, Settings.kind, timer]
  rw [task, hcommand, hquery, hload, htimer]
  rfl

/-! ## Mappers of the own role -/

theorem map_some_ne_none {α : Type} (x : Except MapError α) : some <$> x ≠ .ok none := by
  cases x <;> simp [Functor.map, Except.map]

theorem conversionInput_ne_none (h : n.isSource = true) : n.conversionInput ≠ .ok none := by
  cases hs : n.settings <;> simp_all [conversionInput, isSource, Settings.isSource,
    map_some_ne_none]

theorem conversionOutput_ne_none (h : n.isSink = true) : n.conversionOutput ≠ .ok none := by
  cases hs : n.settings <;> simp_all [conversionOutput, isSink, Settings.isSink, map_some_ne_none]

/-- The mapper that a task of a node comes from. -/
inductive OwnTask (n : Node) (options : PlanOptions) (dagId : String) : Task → Prop
  | fileCommand {t : FileCommand} (h : n.fileCommand options.executedBy = .ok (some t)) :
      OwnTask n options dagId (.fileCommand t)
  | salesforceQuery {t : SalesforceQuery} (h : n.salesforceQuery = .ok (some t)) :
      OwnTask n options dagId (.salesforceQuery t)
  | salesforceLoad {t : SalesforceLoad} (h : n.salesforceLoad = .ok (some t)) :
      OwnTask n options dagId (.salesforceLoad t)
  | timer {t : Timer} (h : n.timer dagId = .ok (some t)) : OwnTask n options dagId (.timer t)

/-- The mappers of tasks are tried in turn: a node without a task has passed them all, and a task
comes from the first one that it does not pass. -/
theorem passed_or_ownTask {o : Option Task} (h : n.task options dagId = .ok o) :
    (o = none ∧ n.fileCommand options.executedBy = .ok none ∧ n.salesforceQuery = .ok none ∧
      n.salesforceLoad = .ok none ∧ n.timer dagId = .ok none) ∨
    ∃ t, o = some t ∧ n.OwnTask options dagId t := by
  rw [task] at h
  rcases hcommand : n.fileCommand options.executedBy with _ | _ | _ <;> rw [hcommand] at h
  · cases h
  · rcases hquery : n.salesforceQuery with _ | _ | _ <;> rw [hquery] at h
    · cases h
    · rcases hload : n.salesforceLoad with _ | _ | _ <;> rw [hload] at h
      · cases h
      · rcases htimer : n.timer dagId with _ | _ | _ <;> rw [htimer] at h
        · cases h
        · cases h
          simp
        · cases h
          exact .inr ⟨_, rfl, .timer htimer⟩
      · cases h
        exact .inr ⟨_, rfl, .salesforceLoad hload⟩
    · cases h
      exact .inr ⟨_, rfl, .salesforceQuery hquery⟩
  · cases h
    exact .inr ⟨_, rfl, .fileCommand hcommand⟩

theorem ownTask_of_task_eq_some {t : Task} (h : n.task options dagId = .ok (some t)) :
    n.OwnTask options dagId t := by
  obtain ⟨hnone, -⟩ | ⟨t', ht, hown⟩ := passed_or_ownTask h
  · cases hnone
  · obtain rfl := Option.some.inj ht
    exact hown

theorem task_ne_none (h : n.hasOwnTask = true) (dagId : String) :
    n.task options dagId ≠ .ok none := by
  intro hnone
  obtain ⟨-, hcommand, hquery, hload, htimer⟩ | ⟨t, ht, -⟩ := passed_or_ownTask hnone
  rotate_left
  · cases ht
  cases hs : n.settings with
  | code s =>
    simp only [fileCommand, hs] at hcommand
    cases hop : s.namedOperation n.id with
    | error e =>
      rw [hop] at hcommand
      cases hcommand
    | ok operation =>
      rw [hop] at hcommand
      exact map_some_ne_none (s.command n.id options.executedBy operation) hcommand
  | _ =>
    simp_all [hasOwnTask, kind, Settings.kind, fileCommand, salesforceQuery, salesforceLoad, timer,
      map_some_ne_none]

/-! ## Objections -/

theorem complaint_of_isSource (h : n.isSource = true) :
    n.complaint options dagId = MapError.ofResult n.conversionInput := by
  simp [complaint, h]

theorem complaint_of_isSink (h : n.isSink = true) :
    n.complaint options dagId = MapError.ofResult n.conversionOutput := by
  have hsource : n.isSource = false := plays_only .sink h .source
  simp [complaint, hsource, h]

theorem complaint_of_isFilter (h : n.isFilter = true) :
    n.complaint options dagId = MapError.ofResult n.clauses := by
  have hsource : n.isSource = false := plays_only .filter h .source
  have hsink : n.isSink = false := plays_only .filter h .sink
  simp [complaint, hsource, hsink, h]

theorem complaint_of_no_role (hsource : n.isSource = false) (hsink : n.isSink = false)
    (hfilter : n.isFilter = false) :
    n.complaint options dagId = MapError.ofResult (n.task options dagId) := by
  simp [complaint, hsource, hsink, hfilter]

theorem complaint_of_hasOwnTask (h : n.hasOwnTask = true) :
    n.complaint options dagId = MapError.ofResult (n.task options dagId) :=
  complaint_of_no_role (plays_only .ownTask h .source) (plays_only .ownTask h .sink)
    (plays_only .ownTask h .filter)

/-- An objection names its node. -/
theorem nodeId_of_objection (h : n.objection options = some e) : e.nodeId = n.id := by
  rw [objection, complaint] at h
  split_ifs at h
  · exact (n.complains_conversionInput e (MapError.ofResult_eq_some_iff.1 h)).1
  · exact (n.complains_conversionOutput e (MapError.ofResult_eq_some_iff.1 h)).1
  · exact (n.complains_clauses e (MapError.ofResult_eq_some_iff.1 h)).1
  · exact (n.complains_task options options.dagId e (MapError.ofResult_eq_some_iff.1 h)).1

/-! ## Nodes without an objection -/

theorem exists_conversionInput (h : n.isSource = true) (hn : n.objection options = none) :
    ∃ input, n.conversionInput = .ok (some input) := by
  rw [objection, complaint_of_isSource h] at hn
  exact MapError.exists_of_ofResult_eq_none hn (conversionInput_ne_none h)

theorem exists_conversionOutput (h : n.isSink = true) (hn : n.objection options = none) :
    ∃ output, n.conversionOutput = .ok (some output) := by
  rw [objection, complaint_of_isSink h] at hn
  exact MapError.exists_of_ofResult_eq_none hn (conversionOutput_ne_none h)

theorem exists_clauses (h : n.isFilter = true) (hn : n.objection options = none) :
    ∃ clauses, n.clauses = .ok clauses := by
  rwa [objection, complaint_of_isFilter h, MapError.ofResult_eq_none_iff] at hn

theorem exists_task (h : n.hasOwnTask = true) (hn : n.objection options = none) :
    ∃ t, n.task options options.dagId = .ok (some t) := by
  rw [objection, complaint_of_hasOwnTask h] at hn
  exact MapError.exists_of_ofResult_eq_none hn (task_ne_none h _)

end Node

end DataPipeline
