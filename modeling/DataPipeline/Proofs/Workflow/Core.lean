import DataPipeline.Plan.Compile
import DataPipeline.Proofs.Settings.Known

/-!
# The core of a workflow

A node has more to it than validation and compilation look at: where it stands on the canvas, how
its last run went, what the user has edited, and keys of its settings that nobody knows. Without all
this, and without the id under which its task is stored, it is a node like it, and what is found out
about the one is true of the other. Only a missing field is looked for among all keys of a node.

## Main definitions

* `Node.core`, `Workflow.core`: nodes and workflows without what is not looked at
* `Node.Alike`, `Workflow.Alike`: nodes and workflows that differ only in that

## Main results

* `Workflow.structuralFaults_core`: the faults of the structure are those of the core
* `Workflow.Alike.faults_eq`: workflows that are alike have the same faults
-/
namespace DataPipeline

theorem FileOperationSettings.namedOperation_withExtra (nodeId : String)
    (s : FileOperationSettings) (d : Dict Json) :
    namedOperation nodeId { s with extra := d } = s.namedOperation nodeId := rfl

theorem FileOperationSettings.command_withExtra (nodeId runner : String) (o : FileOperation)
    (s : FileOperationSettings) (d : Dict Json) :
    command nodeId runner o { s with extra := d } = s.command nodeId runner o := rfl

/-! ## Nodes -/

namespace Node

variable {n n' : Node}

/-- The node as it would be drawn anew: id, kind and fields. -/
def core (n : Node) : Node := { id := n.id, settings := n.settings.known }

@[simp] theorem id_core (n : Node) : n.core.id = n.id := rfl

@[simp] theorem configId_core (n : Node) : n.core.configId = none := rfl

@[simp] theorem kind_core (n : Node) : n.core.kind = n.kind :=
  Settings.kind_withExtra n.settings Dict.empty

@[simp] theorem label_core (n : Node) : n.core.label = n.label := by
  unfold label kind core
  cases n.settings <;> rfl

@[simp] theorem isSource_core (n : Node) : n.core.isSource = n.isSource := by
  unfold isSource core
  cases n.settings <;> rfl

@[simp] theorem isSink_core (n : Node) : n.core.isSink = n.isSink := by
  unfold isSink core
  cases n.settings <;> rfl

@[simp] theorem isFilter_core (n : Node) : n.core.isFilter = n.isFilter := by
  unfold isFilter core
  cases n.settings <;> rfl

/-! ### Tasks -/

@[simp] theorem conversionInput_core (n : Node) : n.core.conversionInput = n.conversionInput := by
  unfold conversionInput core
  cases n.settings <;> rfl

@[simp] theorem conversionOutput_core (n : Node) :
    n.core.conversionOutput = n.conversionOutput := by
  unfold conversionOutput core
  cases n.settings <;> rfl

@[simp] theorem clauses_core (n : Node) : n.core.clauses = n.clauses := by
  unfold clauses core
  cases n.settings <;> rfl

@[simp] theorem fileCommand_core (n : Node) (runner : String) :
    n.core.fileCommand runner = n.fileCommand runner := by
  unfold fileCommand core Settings.known
  cases n.settings with
  | code s =>
    simp only [Settings.withExtra, FileOperationSettings.namedOperation_withExtra,
      FileOperationSettings.command_withExtra]
  | _ => rfl

@[simp] theorem salesforceQuery_core (n : Node) : n.core.salesforceQuery = n.salesforceQuery := by
  unfold salesforceQuery core
  cases n.settings <;> rfl

@[simp] theorem salesforceLoad_core (n : Node) : n.core.salesforceLoad = n.salesforceLoad := by
  unfold salesforceLoad core
  cases n.settings <;> rfl

@[simp] theorem timer_core (n : Node) (dagId : String) : n.core.timer dagId = n.timer dagId := by
  unfold timer core
  cases n.settings <;> rfl

@[simp] theorem task_core (n : Node) (options : PlanOptions) (dagId : String) :
    n.core.task options dagId = n.task options dagId := by
  simp [task]

/-! ### Nodes that are alike -/

/-- The nodes have the same id and differ in nothing that their kind knows. -/
structure Alike (n n' : Node) : Prop where
  id : n.id = n'.id
  settings : n.settings.Alike n'.settings

namespace Alike

theorem core_eq (h : n.Alike n') : n.core = n'.core := by
  rw [core, core, h.id, h.settings.known]

theorem kind_eq (h : n.Alike n') : n'.kind = n.kind := h.settings.kind_eq

theorem missing_eq (h : n.Alike n') : n'.missing = n.missing := by
  have hgiven : n.kind.missing n'.settings.toJson = n.kind.missing n.settings.toJson := by
    unfold Kind.missing
    refine congrArg _ (List.filter_congr fun f hf => ?_)
    rw [h.settings.member_toJson (n.kind.name_mem_keys f hf)]
  rw [missing, missing, h.kind_eq, hgiven, h.settings.needs_eq]

theorem faults_eq (h : n.Alike n') : n'.faults = n.faults := by
  have hlabel : n'.label = n.label := by rw [← label_core, ← h.core_eq, label_core]
  rw [faults, faults, h.missing_eq, h.kind_eq, h.id, hlabel]

end Alike

end Node

/-! ## Workflows -/

namespace Workflow

variable {w w' : Workflow}

/-- The workflow of the cores of the nodes. -/
def core (w : Workflow) : Workflow := { w with nodes := w.nodes.map Node.core }

@[simp] theorem nodes_core (w : Workflow) : w.core.nodes = w.nodes.map Node.core := rfl

@[simp] theorem connections_core (w : Workflow) : w.core.connections = w.connections := rfl

@[simp] theorem ids_core (w : Workflow) : w.core.ids = w.ids := by
  simp [ids, Function.comp_def]

@[simp] theorem node_core (w : Workflow) (id : String) :
    w.core.node id = (w.node id).map Node.core := by
  rw [node, node, nodes_core, List.find?_map]
  rfl

@[simp] theorem graph_core (w : Workflow) : w.core.graph = w.graph := by
  simp [graph]

theorem filter_nodes_core {p : Node → Bool} (hp : ∀ n, p n.core = p n) (w : Workflow) :
    w.core.nodes.filter p = (w.nodes.filter p).map Node.core := by
  simp [List.filter_map, Function.comp_def, hp]

/-! ### Structure -/

theorem terminalCounts_core (w : Workflow) : w.core.terminalCounts = w.terminalCounts := by
  have hcount (k : Kind) : w.core.countKind k = w.countKind k := by
    simp [countKind, List.countP_map, Function.comp_def]
  simp only [terminalCounts, hcount]

theorem terminalDegrees_core (w : Workflow) : w.core.terminalDegrees = w.terminalDegrees := by
  simp [terminalDegrees, List.filterMap_map]

theorem orphans_core (w : Workflow) : w.core.orphans = w.orphans := by
  rw [orphans, filter_nodes_core (by simp)]
  simp [orphans, List.flatMap_map]

theorem islands_core (w : Workflow) : w.core.islands = w.islands := by
  have hstart : w.core.nodes.filter (·.kind = .start) =
      (w.nodes.filter (·.kind = .start)).map Node.core := filter_nodes_core (by simp) w
  unfold islands
  rw [hstart]
  cases hns : w.nodes.filter (·.kind = .start) with
  | nil => rfl
  | cons start ns =>
    cases ns with
    | nil =>
      simp only [List.map_cons, List.map_nil]
      rw [filter_nodes_core (by simp)]
      simp
    | cons n ns => rfl

/-- The faults of the structure say nothing of what is not in the core. -/
theorem structuralFaults_core (w : Workflow) : w.core.structuralFaults = w.structuralFaults := by
  simp [structuralFaults, terminalCounts_core, terminalDegrees_core, orphans_core, islands_core,
    unknownEndpoints, selfLoops, repeatedConnections, cycles, repeatedIds]

/-! ### Workflows that are alike -/

/-- The workflows have the same connections, and their nodes are alike one by one. -/
structure Alike (w w' : Workflow) : Prop where
  connections : w.connections = w'.connections
  nodes : List.Forall₂ Node.Alike w.nodes w'.nodes

namespace Alike

theorem core_eq (h : w.Alike w') : w.core = w'.core := by
  have hnodes : w.nodes.map Node.core = w'.nodes.map Node.core := by
    rw [← List.forall₂_eq_eq_eq, List.forall₂_map_left_iff, List.forall₂_map_right_iff]
    exact h.nodes.imp fun _ _ hn => hn.core_eq
  rw [core, core, h.connections, hnodes]

theorem faults_eq (h : w.Alike w') : w'.faults = w.faults := by
  have hnodes : w'.nodes.map Node.faults = w.nodes.map Node.faults := by
    rw [← List.forall₂_eq_eq_eq, List.forall₂_map_left_iff, List.forall₂_map_right_iff]
    exact h.nodes.flip.imp fun _ _ hn => hn.faults_eq
  rw [faults, faults, ← structuralFaults_core w', ← h.core_eq, structuralFaults_core,
    List.flatMap_def, hnodes, List.flatMap_def]

end Alike

end Workflow

end DataPipeline
