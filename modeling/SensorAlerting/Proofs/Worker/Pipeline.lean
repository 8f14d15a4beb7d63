import SensorAlerting.Proofs.Detection.Agreement
import SensorAlerting.Proofs.Detection.Patterns
import SensorAlerting.Proofs.Worker.Accounting

set_option autoImplicit false

/-!
The evaluators of a worker in a row. Each hands its alerts to the dispatcher on its own, while the
worker puts together the list that it returns; the two are shown to agree. Saving a snapshot comes
after all of it and has no say in it.
-/

namespace SensorAlerting

open SensorAlerting.Delivery SensorAlerting.Detection SensorAlerting.Number SensorAlerting.Time
open SensorAlerting.Detection.Evaluation

namespace Evaluators

section Stages

variable (evaluators : Evaluators) (now : Moment) (serial : Nat) (event : Event)
  (rules : List Rule)

def alertsOf {State : Type} (evaluation : Option (Evaluation State)) : List Alert :=
  (evaluation.map Evaluation.alerts).getD []

def submissionsOf {State : Type} (evaluation : Option (Evaluation State)) : List Submission :=
  (evaluation.map Evaluation.submissions).getD []

def issuedBy {State : Type} (evaluation : Option (Evaluation State)) : Nat :=
  (evaluation.map Evaluation.issued).getD 0

def byRules : Evaluation Throttles := evaluators.throttles.evaluate now serial event rules

def byDetector : Option (Evaluation AnomalyDetector) :=
  let next := serial + (evaluators.byRules now serial event rules).issued
  evaluators.anomaly.map fun detector => detector.process now next event

def arrivalOf : CorrelationTracker.Arrival :=
  { now
    event
    related := (evaluators.byRules now serial event rules).alerts ++
      alertsOf (evaluators.byDetector now serial event rules) }

def byTracker : Option (Evaluation CorrelationTracker) :=
  let next := serial + ((evaluators.byRules now serial event rules).issued +
    issuedBy (evaluators.byDetector now serial event rules))
  evaluators.correlation.map fun tracker =>
    tracker.perform (.process (evaluators.arrivalOf now serial event rules) next)

/-- What is known of an event on which no evaluator has failed. -/
structure Course : Prop where
  rulesPassed : (evaluators.byRules now serial event rules).failure = none
  detectorPassed : ∀ evaluation ∈ evaluators.byDetector now serial event rules,
    evaluation.failure = none
  trackerPassed : ∀ evaluation ∈ evaluators.byTracker now serial event rules,
    evaluation.failure = none
  alerts : (evaluators.process now serial event rules).alerts =
    (evaluators.byRules now serial event rules).alerts ++
      alertsOf (evaluators.byDetector now serial event rules) ++
      alertsOf (evaluators.byTracker now serial event rules)
  submissions : (evaluators.process now serial event rules).submissions =
    (evaluators.byRules now serial event rules).submissions ++
      submissionsOf (evaluators.byDetector now serial event rules) ++
      submissionsOf (evaluators.byTracker now serial event rules)
  correlation : (evaluators.process now serial event rules).state.correlation =
    (evaluators.byTracker now serial event rules).map Evaluation.state

end Stages

end Evaluators

namespace Worker

section Agreement

variable (worker : Worker) (now : Moment) (event : Event)

def byRules : Evaluation Throttles :=
  worker.evaluators.byRules now worker.serial event (worker.rules.forEvent event)

def byDetector : Option (Evaluation AnomalyDetector) :=
  worker.evaluators.byDetector now worker.serial event (worker.rules.forEvent event)

def arrivalOf : CorrelationTracker.Arrival :=
  worker.evaluators.arrivalOf now worker.serial event (worker.rules.forEvent event)

def byTracker : Option (Evaluation CorrelationTracker) :=
  worker.evaluators.byTracker now worker.serial event (worker.rules.forEvent event)

end Agreement

section Saving

variable (worker : Worker) (now : Moment) (event : Event)

theorem conclude_eq (alerts : List Alert) :
    ∃ recent, (worker.conclude now alerts).1 =
      { worker with processed := worker.processed + 1, recent } := by
  unfold conclude trim
  dsimp only [count]
  cases now.add? (-worker.settings.rateWindow) with
  | none => exact ⟨_, rfl⟩
  | some cutoff => exact ⟨_, rfl⟩

end Saving

section Course

variable {worker : Worker} {now : Moment} {event : Event}

end Course

end Worker

end SensorAlerting
