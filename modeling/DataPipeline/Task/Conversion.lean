import DataPipeline.Task.Clauses
import DataPipeline.Task.Options
import DataPipeline.Task.Output

/-!
# File conversions

The task of a chain: records are read from an input, go through the clauses of a filter, and are
written to an output.

## Main definitions

* `Conversion`, `Conversion.codec`
* `Conversion.ofNodes`: the conversion of a source, a sink and a filter
-/
namespace DataPipeline

structure Conversion where
  input : ConversionInput
  output : ConversionOutput
  filter : Option FilterClause
  orderBy : Option (List SortKey)
  aggregation : Option AggregationClause
  resources : Resources
  dagId : String

namespace Conversion

def layout : Layout Conversion Conversion :=
  Layout.make mk
    |>.field (.required "input" ConversionInput.codec (·.input))
    |>.field (.required "output" ConversionOutput.codec (·.output))
    |>.field (.optional "filter" FilterClause.codec (·.filter))
    |>.field (.optional "order_by" SortKey.codec.list (·.orderBy))
    |>.field (.optional "aggregation" AggregationClause.codec (·.aggregation))
    |>.field (.required "spark_config" Resources.codec (·.resources))
    |>.field (.required "dag_id" .text (·.dagId))

def codec : Codec Conversion := .record "FileConversionConfig" layout

/-- The conversion from `read` to `write`; there is none unless they are a source and a sink. -/
def ofNodes (read write : Node) (filter : Option Node) (resources : Resources) (dagId : String) :
    Except MapError (Option Conversion) := do
  let some input ← read.conversionInput | return none
  let some output ← write.conversionOutput | return none
  let clauses ← clausesOf filter
  return some
    ⟨input, output, clauses.filter, clauses.orderBy, clauses.aggregation, resources, dagId⟩

end Conversion

end DataPipeline
