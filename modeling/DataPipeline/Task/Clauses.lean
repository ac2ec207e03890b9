import DataPipeline.Task.Storage
import DataPipeline.Workflow.Node

/-!
# Clauses of conversions

What a filter node does to the records between input and output, in normal form. Rows without a
field are unfinished and are dropped; operators and functions are trimmed and in small letters; a
clause without rows is absent.

## Main definitions

* `FilterClause`, `AggregationClause`, `Clauses`
* `Condition.normalize`, `Aggregate.normalize`: one row in normal form, nothing, or an error
* `Node.clauses`: the clauses of a filter; other nodes have none
-/
namespace DataPipeline

/-! ## Records -/

structure FilterClause where
  operator : Junction
  conditions : List Condition

namespace FilterClause

def layout : Layout FilterClause FilterClause :=
  Layout.make mk
    |>.field (.required "operator" Junction.codec (·.operator))
    |>.field (.required "conditions" Condition.codec.list (·.conditions))

def codec : Codec FilterClause := .record "FilterClause" layout

end FilterClause

structure AggregationClause where
  groupBy : List String
  aggregates : List Aggregate
deriving DecidableEq

namespace AggregationClause

def layout : Layout AggregationClause AggregationClause :=
  Layout.make mk
    |>.field (.required "group_by" Codec.text.list (·.groupBy))
    |>.field (.required "aggregations" Aggregate.codec.list (·.aggregates))

def codec : Codec AggregationClause := .record "AggregationSpec" layout

end AggregationClause

structure Clauses where
  filter : Option FilterClause := none
  orderBy : Option (List SortKey) := none
  aggregation : Option AggregationClause := none

namespace Clauses

def layout : Layout Clauses Clauses :=
  Layout.make mk
    |>.field (.optional "filter" FilterClause.codec (·.filter))
    |>.field (.optional "order_by" SortKey.codec.list (·.orderBy))
    |>.field (.optional "aggregation" AggregationClause.codec (·.aggregation))

def codec : Codec Clauses := .record "TransformationClauses" layout

def isEmpty (c : Clauses) : Bool := c.filter.isNone && c.orderBy.isNone && c.aggregation.isNone

end Clauses

/-! ## Normal forms of rows -/

/-- Operators between a field and a value. -/
def comparisonOperators : List String :=
  ["=", "==", "!=", "<>", ">", ">=", "<", "<=", "eq", "ne", "gt", "gte", "lt", "lte", "like",
    "contains"]

/-- Operators on parts and lists of values; they need a value too. -/
def membershipOperators : List String := ["in", "not_in", "starts_with", "ends_with"]

/-- Operators on a field alone. -/
def nullChecks : List String := ["is_null", "is_not_null"]

def aggregateNames : List String :=
  ["count", "count_distinct", "sum", "avg", "min", "max", "first"]

/-- The items of a list, if there are any. -/
def nonEmpty {α : Type} (items : List α) : Option (List α) :=
  if items.isEmpty then none else some items

/-- The value that an operator needs. -/
def Condition.operand (nodeId operator : String) (c : Condition) :
    Except MapError (Option Json) :=
  if nullChecks.contains operator then .ok none
  else if comparisonOperators.contains operator || membershipOperators.contains operator then
    match c.value with
    | none | some .null => .error (.missingField nodeId "conditions.value")
    | some v => .ok (some v)
  else .error (.invalidValue nodeId "conditions.operator" c.operator "unknown comparison operator")

/-- A condition in normal form; nothing for one without a field. -/
def Condition.normalize (nodeId : String) (c : Condition) : Except MapError (Option Condition) := do
  if Text.isBlank c.field then return none
  let operator := Text.lower (Text.trim c.operator)
  if operator.isEmpty then .error (.missingField nodeId "conditions.operator")
  let value ← c.operand nodeId operator
  return some ⟨Text.trim c.field, operator, value⟩

/-- An aggregate in normal form; nothing for one without a field. -/
def Aggregate.normalize (nodeId : String) (a : Aggregate) : Except MapError (Option Aggregate) :=
  if Text.isBlank a.field then .ok none
  else
    let function := Text.lower (Text.trim a.function)
    if aggregateNames.contains function then .ok (some ⟨Text.trim a.field, function⟩)
    else
      .error (.invalidValue nodeId "aggregation.function" a.function "unknown aggregate function")

/-! ## Clauses of a filter -/

def FilterSettings.conditionClause (nodeId : String) (s : FilterSettings) :
    Except MapError (Option FilterClause) := do
  let conditions := (← s.conditions.mapM (Condition.normalize nodeId)).reduceOption
  return (nonEmpty conditions).map fun cs => ⟨s.operator.getD .all, cs⟩

def FilterSettings.orderClause (s : FilterSettings) : Option (List SortKey) :=
  nonEmpty ((s.orderBy.filter (!Text.isBlank ·.field)).map fun k =>
    ⟨Text.trim k.field, k.direction⟩)

/-- Grouping alone is no aggregation. -/
def Aggregation.clause (nodeId : String) (a : Aggregation) :
    Except MapError (Option AggregationClause) := do
  let aggregates := (← a.aggregates.mapM (Aggregate.normalize nodeId)).reduceOption
  return (nonEmpty aggregates).map fun as =>
    ⟨(a.groupBy.filter (!Text.isBlank ·)).map Text.trim, as⟩

def FilterSettings.clauses (nodeId : String) (s : FilterSettings) : Except MapError Clauses := do
  let filter ← s.conditionClause nodeId
  let aggregation ← match s.aggregation with
    | none => .ok none
    | some a => a.clause nodeId
  return ⟨filter, s.orderClause, aggregation⟩

/-- The clauses of a filter node. -/
def Node.clauses (n : Node) : Except MapError Clauses :=
  match n.settings with
  | .filter s => s.clauses n.id
  | _ => .ok {}

/-- The clauses of a filter that need not be there. -/
def clausesOf (filter : Option Node) : Except MapError Clauses :=
  match filter with
  | some n => n.clauses
  | none => .ok {}

end DataPipeline
