import Telemetry.Rejection
import Telemetry.Series.Point
import Telemetry.Target

/-!
# Events

What assembly reports beside its results: a level, a message, and named fields with their texts.
-/

namespace Telemetry

inductive EventLevel
  | debug
  | warn
deriving DecidableEq, Repr

inductive Event
  | newFamily (family : String) (type : MetricType)
  | rejectedSample (target : Target) (sample : String) (reason : Rejection)
  | skippedSeries (family labels : String)
  | droppedSeries (family labels : String) (reason : PointFailure)
  | noPoints (family : String) (series : Nat)
  | cycleFinished (target : Target) (families records accepted rejected : Nat)
deriving DecidableEq, Repr

def EventLevel.name : EventLevel → String
  | debug => "DEBUG"
  | warn => "WARN"

namespace Event

def level : Event → EventLevel
  | droppedSeries .. => .warn
  | _ => .debug

def message : Event → String
  | newFamily .. => "New metric family"
  | rejectedSample .. => "Rejected sample"
  | skippedSeries .. => "Skipping empty group"
  | droppedSeries .. => "Dropping group"
  | noPoints .. => "Family produced no points"
  | cycleFinished .. => "Scrape cycle finished"

def fields : Event → List (String × String)
  | newFamily family type => [("family", family), ("metric_type", type.name)]
  | rejectedSample target sample reason =>
    [("job", target.job), ("instance", target.instanceName), ("sample", sample), ("error", reason.message)]
  | skippedSeries family labels => [("family", family), ("labels", labels)]
  | droppedSeries family labels reason => [("family", family), ("labels", labels), ("error", reason.message)]
  | noPoints family series => [("family", family), ("groups", toString series)]
  | cycleFinished target families records accepted rejected =>
    [("job", target.job), ("instance", target.instanceName), ("families", toString families),
     ("records", toString records), ("accepted", toString accepted), ("rejected", toString rejected)]

end Event

end Telemetry
