import DataPipeline.Plan.Chain
import DataPipeline.Plan.Dag
import DataPipeline.Task.Basic
import DataPipeline.Validation.Basic

/-!
# Compilation

From a workflow to the DAG and the tasks of its nodes. Either the workflow is valid, every node
gives its task and every source and sink is part of a chain, or there is no plan, but a list of all
that is wrong. The task of a chain belongs to its source.

## Main definitions

* `Plan`: the outcome; `CompileError`: why there is none
* `Workflow.assign`: what one node contributes
* `Workflow.compile`
-/
namespace DataPipeline

/-- A DAG with the tasks of its nodes. -/
structure Plan where
  dag : Dag
  assignments : List Assignment

namespace Plan

/-- The task that belongs to a node. -/
def assignmentOf (p : Plan) (id : String) : Option Assignment :=
  p.assignments.find? (·.nodeId = id)

def toJson (p : Plan) : Json :=
  .obj [("dag", Dag.codec.toJson p.dag), ("configs", .arr (p.assignments.map Assignment.toJson))]

end Plan

/-! ## Errors -/

inductive CompileError where
  | invalid (fault : Fault)
  | unmapped (error : MapError)
  | unknownInChain (id : String)
  | brokenChain (source : String)
  | unchained (kind : Kind) (id label : String)
deriving DecidableEq

namespace CompileError

def diagnostic : CompileError → Diagnostic
  | invalid f => f.diagnostic
  | unmapped e => e.diagnostic
  | unknownInChain id => ⟨"L001", .lower, "Sequence references unknown node '" ++ id ++ "'", none⟩
  | brokenChain source =>
    ⟨"L001", .lower, "Sequence endpoints do not map to an input and an output", some source⟩
  | unchained kind id label =>
    ⟨"L002", .lower,
      kind.title ++ " node '" ++ label ++ "' is not part of a read -> (filter) -> write chain",
      some id⟩

end CompileError

namespace Workflow

/-! ## The contribution of a node -/

/-- A node that takes part in a chain. -/
def chainMember (w : Workflow) (id : String) : Except CompileError Node :=
  match w.node id with
  | some n => .ok n
  | none => .error (.unknownInChain id)

/-- The conversion of a chain. -/
def conversion (w : Workflow) (options : PlanOptions) (c : Chain) :
    Except CompileError Conversion := do
  let read ← w.chainMember c.read
  let write ← w.chainMember c.write
  let filter ← match c.filter with
    | none => .ok none
    | some id => some <$> w.chainMember id
  match Conversion.ofNodes read write filter options.resources options.dagId with
  | .error e => .error (.unmapped e)
  | .ok none => .error (.brokenChain c.read)
  | .ok (some t) => .ok t

/-- What is wrong with a node that neither has a task of its own nor is part of a chain. Its
settings are looked at all the same, and a source or sink cannot run on its own. -/
def strayErrors (n : Node) : List CompileError :=
  let failure {α : Type} : Except MapError α → List CompileError
    | .error e => [.unmapped e]
    | .ok _ => []
  failure n.conversionInput ++ failure n.conversionOutput ++ failure n.clauses ++
    if n.isSource || n.isSink then [.unchained n.kind n.id n.label] else []

/-- What a node contributes to the plan, given the chains: a task, nothing, or errors. -/
def assign (w : Workflow) (chains : List Chain) (options : PlanOptions) (n : Node) :
    Except (List CompileError) (Option Assignment) :=
  match chains.reverse.find? (·.read = n.id) with
  | some c =>
    match w.conversion options c with
    | .ok t => .ok (some (.ofNode n (.conversion t)))
    | .error e => .error [e]
  | none =>
    if chains.any (·.members.contains n.id) then .ok none
    else match n.task options options.dagId with
      | .error e => .error [.unmapped e]
      | .ok (some t) => .ok (some (.ofNode n t))
      | .ok none =>
        match strayErrors n with
        | [] => .ok none
        | es => .error es

/-! ## Compilation -/

/-- Collects what the nodes contribute, or else all their errors. -/
def gather {ε α β : Type} (f : α → Except (List ε) (Option β)) (as : List α) :
    Except (List ε) (List β) :=
  let results := as.map f
  let errors := results.flatMap fun
    | .error es => es
    | .ok _ => []
  if errors.isEmpty then
    .ok (results.filterMap fun
      | .ok b => b
      | .error _ => none)
  else .error errors

/-- The plan of a workflow. -/
def compile (w : Workflow) (options : PlanOptions) : Except (List CompileError) Plan :=
  if w.faults.isEmpty then do
    let assignments ← gather (w.assign w.chains options) w.nodes
    return ⟨w.dag options, assignments⟩
  else .error (w.faults.map .invalid)

end Workflow

end DataPipeline
