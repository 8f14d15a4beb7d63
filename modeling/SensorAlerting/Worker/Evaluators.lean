import SensorAlerting.Detection.Anomaly
import SensorAlerting.Detection.Correlation
import SensorAlerting.Detection.Threshold

set_option autoImplicit false

/-!
The evaluators of a worker in their order: threshold rules, then anomalies, then correlation, which
is told of the alerts that the first two have raised for the event. The last two may be off.
-/

namespace SensorAlerting

open SensorAlerting.Detection SensorAlerting.Time

structure Evaluators where
  throttles : Throttles
  anomaly : Option AnomalyDetector
  correlation : Option CorrelationTracker

namespace Evaluators

def applyRules (evaluators : Evaluators) (now : Moment) (serial : Nat) (event : Event)
    (rules : List Rule) : Evaluation Evaluators :=
  (evaluators.throttles.evaluate now serial event rules).map fun throttles =>
    { evaluators with throttles }

def findAnomalies (evaluators : Evaluators) (now : Moment) (serial : Nat) (event : Event) :
    Evaluation Evaluators :=
  match evaluators.anomaly with
  | none => .nothing evaluators
  | some detector =>
    (detector.process now serial event).map fun detector =>
      { evaluators with anomaly := some detector }

def correlate (evaluators : Evaluators) (now : Moment) (serial : Nat) (event : Event)
    (related : List Alert) : Evaluation Evaluators :=
  match evaluators.correlation with
  | none => .nothing evaluators
  | some tracker =>
    (tracker.process now serial event related).map fun tracker =>
      { evaluators with correlation := some tracker }

/-- Every evaluator on one event. A failure ends it, but what was raised before stays. -/
def process (evaluators : Evaluators) (now : Moment) (serial : Nat) (event : Event)
    (rules : List Rule) : Evaluation Evaluators :=
  ((evaluators.applyRules now serial event rules).andThen fun evaluators issued _ =>
    evaluators.findAnomalies now (serial + issued) event).andThen fun evaluators issued related =>
      evaluators.correlate now (serial + issued) event related

end Evaluators

end SensorAlerting
