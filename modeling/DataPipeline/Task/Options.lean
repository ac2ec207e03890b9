import DataPipeline.Codec.Record
import DataPipeline.Text.Basic
import DataPipeline.Text.Slug

/-!
# Options of a compilation

What is said about the workflow as a whole when it is compiled. Everything has a default, so that an
empty object is enough.

## Main definitions

* `Resources`: what the engine may use for a file conversion
* `PlanOptions`, `PlanOptions.codec`
* `PlanOptions.dagId`: the id of the DAG, given or derived from the name
-/
namespace DataPipeline

structure Resources where
  driverMemory : String := "1g"
  executorMemory : String := "1g"
  executorCores : UInt32 := 1
  executors : UInt32 := 1
  extra : Dict Json := Dict.empty

namespace Resources

def layout : Layout Resources Resources :=
  Layout.make mk
    |>.field (.orElse "driver_memory" .text "1g" (·.driverMemory))
    |>.field (.orElse "executor_memory" .text "1g" (·.executorMemory))
    |>.field (.orElse "executor_cores" .word32 1 (·.executorCores))
    |>.field (.orElse "num_executors" .word32 1 (·.executors))
    |>.field (.dict "extra" (·.extra))

def codec : Codec Resources := .record "SparkConfig" layout

end Resources

structure PlanOptions where
  /-- The id of the DAG, derived from the name when it is absent or blank. -/
  explicitDagId : Option String := none
  name : String := "workflow"
  schedule : Option String := none
  active : Bool := true
  /-- Who runs file commands that do not say it. -/
  executedBy : String := "cli"
  resources : Resources := {}

namespace PlanOptions

def layout : Layout PlanOptions PlanOptions :=
  Layout.make mk
    |>.field (.orElse "dag_id" Codec.text.optional none (·.explicitDagId))
    |>.field (.orElse "name" .text "workflow" (·.name))
    |>.field (.orElse "schedule" Codec.text.optional none (·.schedule))
    |>.field (.orElse "active" .boolean true (·.active))
    |>.field (.orElse "executed_by" .text "cli" (·.executedBy))
    |>.field (.orElse "spark" Resources.codec {} (·.resources))

def codec : Codec PlanOptions := .record "CompileOptions" layout

def dagId (o : PlanOptions) : String :=
  match o.explicitDagId.filter (!Text.isBlank ·) with
  | some id => id
  | none => "dag_" ++ Text.slug o.name

end PlanOptions

end DataPipeline
