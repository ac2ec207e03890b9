import DataPipeline.Codec.Choice
import DataPipeline.Codec.Record

/-!
# Settings of filter nodes

A filter node selects records by conditions, orders them and aggregates them. Its rows may be
unfinished: every field of a row has a default.

## Main definitions

* `Condition`, `SortKey`, `Aggregate`: one row each of the three parts
* `Aggregation`: the aggregates with the names to group by
* `FilterSettings`: the settings
-/
namespace DataPipeline

/-! ## Conditions -/

/-- How the conditions of a filter are joined. -/
inductive Junction where
  | all
  | any
deriving DecidableEq

namespace Junction

def name : Junction → String
  | all => "AND"
  | any => "OR"

def codec : Codec Junction := .choice [("AND", all), ("and", all), ("OR", any), ("or", any)] name

end Junction

structure Condition where
  field : String := ""
  operator : String := ""
  value : Option Json := none

namespace Condition

def layout : Layout Condition Condition :=
  Layout.make mk
    |>.field (.orElse "field" .text "" (·.field))
    |>.field (.orElse "operator" .text "" (·.operator))
    |>.field (.optional "value" .any (·.value))

def codec : Codec Condition := .record "FilterCondition" layout

end Condition

/-! ## Order -/

inductive Direction where
  | ascending
  | descending
deriving DecidableEq

namespace Direction

def name : Direction → String
  | ascending => "asc"
  | descending => "desc"

def codec : Codec Direction :=
  .choice [("ASC", ascending), ("asc", ascending), ("DESC", descending), ("desc", descending)] name

end Direction

structure SortKey where
  field : String := ""
  direction : Direction := .ascending
deriving DecidableEq

namespace SortKey

def layout : Layout SortKey SortKey :=
  Layout.make mk
    |>.field (.orElse "field" .text "" (·.field))
    |>.field (.orElse "direction" Direction.codec .ascending (·.direction))

def codec : Codec SortKey := .record "OrderByClause" layout

end SortKey

/-! ## Aggregation -/

structure Aggregate where
  field : String := ""
  function : String := ""
deriving DecidableEq

namespace Aggregate

def layout : Layout Aggregate Aggregate :=
  Layout.make mk
    |>.field (.orElse "field" .text "" (·.field))
    |>.field (.orElse "function" .text "" (·.function))

def codec : Codec Aggregate := .record "AggregationClause" layout

end Aggregate

structure Aggregation where
  groupBy : List String := []
  aggregates : List Aggregate := []
deriving DecidableEq

namespace Aggregation

def layout : Layout Aggregation Aggregation :=
  Layout.make mk
    |>.field (.items "group_by" .text (·.groupBy))
    |>.field (.items "aggregations" Aggregate.codec (·.aggregates))

def codec : Codec Aggregation := .record "AggregationData" layout

end Aggregation

/-! ## Filter nodes -/

structure FilterSettings where
  label : Option String := none
  operator : Option Junction := none
  conditions : List Condition := []
  orderBy : List SortKey := []
  aggregation : Option Aggregation := none
  extra : Dict Json := Dict.empty

namespace FilterSettings

def layout : Layout FilterSettings (Dict Json → FilterSettings) :=
  Layout.make mk
    |>.field (.optional "label" .text (·.label))
    |>.field (.optional "operator" Junction.codec (·.operator))
    |>.field (.items "conditions" Condition.codec (·.conditions))
    |>.field (.items "order_by" SortKey.codec (·.orderBy))
    |>.field (.optional "aggregation" Aggregation.codec (·.aggregation))

def codec : Codec FilterSettings := .openRecord "FilterData" layout (·.extra)

end FilterSettings

end DataPipeline
