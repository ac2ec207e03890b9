import DataPipeline.Task.Salesforce
import DataPipeline.Text.Timestamp

/-!
# Timers

The task of a scheduler node: to run a DAG from a start time on, again and again at an interval.

## Main definitions

* `TimerUnit`, `TimerUnit.ofText`: units, in the singular or the plural
* `Timer`, `Timer.codec`
* `Node.timer`: the timer of a node, given the DAG that it runs by default
-/
namespace DataPipeline

inductive TimerUnit where
  | minutes
  | hours
  | days
  | weeks
  | months
deriving DecidableEq

namespace TimerUnit

def all : List TimerUnit := [minutes, hours, days, weeks, months]

def name : TimerUnit → String
  | minutes => "minutes"
  | hours => "hours"
  | days => "days"
  | weeks => "weeks"
  | months => "months"

def singular : TimerUnit → String
  | minutes => "minute"
  | hours => "hour"
  | days => "day"
  | weeks => "week"
  | months => "month"

def codec : Codec TimerUnit := .choice (all.map fun u => (u.name, u)) name

/-- The unit with a name, up to case. -/
def ofText (s : String) : Option TimerUnit :=
  all.find? fun u => Text.lower s = u.name || Text.lower s = u.singular

end TimerUnit

structure Timer where
  dagId : String
  startTime : String
  interval : UInt32
  unit : TimerUnit
  occurrenceLimit : Option UInt32
  active : Bool
deriving DecidableEq

namespace Timer

def layout : Layout Timer Timer :=
  Layout.make mk
    |>.field (.required "dag_id" .text (·.dagId))
    |>.field (.required "start_time" .text (·.startTime))
    |>.field (.required "interval" .word32 (·.interval))
    |>.field (.required "unit" TimerUnit.codec (·.unit))
    |>.field (.optional "occurrence_limit" .word32 (·.occurrenceLimit))
    |>.field (.required "active" .boolean (·.active))

def codec : Codec Timer := .record "SchedulerTimerConfig" layout

end Timer

namespace SchedulerSettings

/-- The start time as it is written; it must be a timestamp. -/
def checkedStart (nodeId : String) (s : SchedulerSettings) : Except MapError String := do
  let start ← required nodeId "start_time" s.startTime
  match Timestamp.parse start with
  | .ok _ => return start
  | .error fault =>
    .error (.invalidValue nodeId "start_time" start
      ("expected an RFC 3339 timestamp (" ++ fault.message ++ ")"))

/-- A positive number of 32 bits. -/
def atLeastOne (nodeId field : String) (value : Int64) : Except MapError UInt32 :=
  within nodeId field 1 4294967295 value

/-- The unit of the interval, by default days. -/
def timerUnit (nodeId : String) (s : SchedulerSettings) : Except MapError TimerUnit :=
  match Text.content s.unit with
  | none => .ok .days
  | some name => match TimerUnit.ofText name with
    | some u => .ok u
    | none =>
      .error (.invalidValue nodeId "unit" name "expected minutes, hours, days, weeks or months")

def timer (nodeId dagId : String) (s : SchedulerSettings) : Except MapError Timer := do
  let startTime ← s.checkedStart nodeId
  let interval ← atLeastOne nodeId "interval" (s.interval.getD 1)
  let unit ← s.timerUnit nodeId
  let occurrenceLimit ← match s.occurrenceLimit with
    | none => .ok none
    | some n => some <$> atLeastOne nodeId "occurrence_limit" n
  return {
    dagId := (Text.content s.targetDagId).getD dagId
    startTime := startTime
    interval := interval
    unit := unit
    occurrenceLimit := occurrenceLimit
    active := s.active.getD true }

end SchedulerSettings

/-- The timer of a scheduler node. -/
def Node.timer (n : Node) (dagId : String) : Except MapError (Option Timer) :=
  match n.settings with
  | .scheduler s => some <$> s.timer n.id dagId
  | _ => .ok none

end DataPipeline
