/-
Notices: what a part of the agent has to tell while it works.

A notice is either a log entry or a measurement.  Steps of the agent answer with
the notices that they give rise to, in order, and leave it to the outside to
write them down.
-/
import ClusterAgent.Telemetry.Log
import ClusterAgent.Telemetry.Registry

namespace ClusterAgent

/-- A log entry or a measurement. -/
inductive Notice where
  | logged (event : LogEvent)
  | measured (measurement : Measurement)

/-- The log entry of a notice. -/
def Notice.log? : Notice → Option LogEvent
  | .logged event => some event
  | .measured _ => none

/-- The measurement of a notice. -/
def Notice.measurement? : Notice → Option Measurement
  | .logged _ => none
  | .measured m => some m

/-- The log entries among notices. -/
def logsOf (ns : List Notice) : List LogEvent := ns.filterMap Notice.log?

/-- The measurements among notices. -/
def measurementsOf (ns : List Notice) : List Measurement := ns.filterMap Notice.measurement?

/-- Record the measurements among notices. -/
def Registry.recordAll (r : Registry) (ns : List Notice) : Registry :=
  (measurementsOf ns).foldl Registry.record r

@[simp] theorem logsOf_append (a b : List Notice) : logsOf (a ++ b) = logsOf a ++ logsOf b :=
  List.filterMap_append ..

@[simp] theorem measurementsOf_append (a b : List Notice) :
    measurementsOf (a ++ b) = measurementsOf a ++ measurementsOf b :=
  List.filterMap_append ..

theorem Registry.recordAll_append (r : Registry) (a b : List Notice) :
    r.recordAll (a ++ b) = (r.recordAll a).recordAll b := by
  simp [Registry.recordAll]

end ClusterAgent
