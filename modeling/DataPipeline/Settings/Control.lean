import DataPipeline.Codec.Record

/-!
# Settings of control nodes

Nodes that move no data. The two ends of a workflow have a label and nothing else; a scheduler node
runs a DAG from a start time on, at an interval. Like all settings theirs keep the keys that they do
not know, so that nothing is lost when a node is written again.
-/
namespace DataPipeline

/-! ## Start and end -/

structure TerminalSettings where
  label : Option String := none
  extra : Dict Json := Dict.empty

namespace TerminalSettings

def layout : Layout TerminalSettings (Dict Json → TerminalSettings) :=
  Layout.make mk
    |>.field (.optional "label" .text (·.label))

def codec : Codec TerminalSettings := .openRecord "TerminalData" layout (·.extra)

end TerminalSettings

/-! ## Schedulers -/

structure SchedulerSettings where
  label : Option String := none
  targetDagId : Option String := none
  startTime : Option String := none
  interval : Option Int64 := none
  unit : Option String := none
  occurrenceLimit : Option Int64 := none
  active : Option Bool := none
  extra : Dict Json := Dict.empty

namespace SchedulerSettings

def layout : Layout SchedulerSettings (Dict Json → SchedulerSettings) :=
  Layout.make mk
    |>.field (.optional "label" .text (·.label))
    |>.field (.optional "target_dag_id" .text (·.targetDagId))
    |>.field (.optional "start_time" .text (·.startTime))
    |>.field (.optional "interval" .int64 (·.interval))
    |>.field (.optional "unit" .text (·.unit))
    |>.field (.optional "occurrence_limit" .int64 (·.occurrenceLimit))
    |>.field (.optional "active" .boolean (·.active))

def codec : Codec SchedulerSettings := .openRecord "SchedulerData" layout (·.extra)

end SchedulerSettings

end DataPipeline
