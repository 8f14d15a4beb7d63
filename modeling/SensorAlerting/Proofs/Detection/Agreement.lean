import SensorAlerting.Detection.Anomaly
import SensorAlerting.Detection.Threshold
import SensorAlerting.Proofs.Detection.Tracking

set_option autoImplicit false

/-!
An evaluator hands its alerts on one by one and returns them all at the end. When it comes to its
end, what it returns is what it has handed on, with ids that follow one another.
-/

namespace SensorAlerting.Detection

open SensorAlerting.Number SensorAlerting.Time

namespace Evaluation

variable {State Other : Type}

structure Raised (evaluation : Evaluation State) (serial : Nat)
    (unnumbered : List (Nat -> Submission)) : Prop where
  passed : evaluation.failure = none
  submissions : evaluation.submissions = numbered serial unnumbered
  alerts : evaluation.alerts = evaluation.submissions.map Submission.alert
  issued : evaluation.issued = unnumbered.length

theorem numbered_append (serial : Nat) (first later : List (Nat -> Submission)) :
    numbered serial (first ++ later) =
      numbered serial first ++ numbered (serial + first.length) later := by
  induction first generalizing serial with
  | nil => rfl
  | cons make rest ih =>
    have next : serial + 1 + rest.length = serial + (rest.length + 1) := by omega
    simp [numbered, ih, next]

variable {evaluation first : Evaluation State} {serial : Nat}
  {unnumbered earlier later : List (Nat -> Submission)}

theorem raised_nothing (state : State) (serial : Nat) : (nothing state).Raised serial [] :=
  ⟨rfl, rfl, rfl, rfl⟩

theorem raised_ofUnnumbered (state : State) (serial : Nat)
    (unnumbered : List (Nat -> Submission)) :
    (ofUnnumbered state serial unnumbered).Raised serial unnumbered := ⟨rfl, rfl, rfl, rfl⟩

theorem Raised.after (raised : evaluation.Raised (serial + 1) unnumbered)
    (make : Nat -> Submission) :
    (evaluation.after (make serial)).Raised serial (make :: unnumbered) where
  passed := raised.passed
  submissions := congrArg (make serial :: ·) raised.submissions
  alerts := congrArg ((make serial).alert :: ·) raised.alerts
  issued := congrArg (· + 1) raised.issued

theorem Raised.map (raised : evaluation.Raised serial unnumbered) (widen : State -> Other) :
    (evaluation.map widen).Raised serial unnumbered :=
  ⟨raised.passed, raised.submissions, raised.alerts, raised.issued⟩

theorem andThen_of_passed (passed : first.failure = none)
    (next : State -> Nat -> List Alert -> Evaluation State) :
    let later := next first.state first.issued first.alerts
    (first.andThen next).state = later.state ∧ (first.andThen next).failure = later.failure ∧
      (first.andThen next).alerts = first.alerts ++ later.alerts ∧
      (first.andThen next).submissions = first.submissions ++ later.submissions ∧
      (first.andThen next).issued = first.issued + later.issued := by
  unfold andThen
  rw [passed]
  exact ⟨rfl, rfl, rfl, rfl, rfl⟩

theorem Raised.andThen (raised : first.Raised serial earlier)
    {next : State -> Nat -> List Alert -> Evaluation State}
    (raisedNext : (next first.state first.issued first.alerts).Raised
      (serial + first.issued) later) :
    (first.andThen next).Raised serial (earlier ++ later) := by
  obtain ⟨-, failure, alerts, submissions, issued⟩ := andThen_of_passed raised.passed next
  constructor
  next => exact failure.trans raisedNext.passed
  next =>
    rw [submissions, numbered_append, <- raised.issued, raised.submissions,
      raisedNext.submissions]
  next => rw [alerts, submissions, List.map_append, <- raised.alerts, <- raisedNext.alerts]
  next => rw [issued, List.length_append, <- raised.issued, <- raisedNext.issued]

end Evaluation

open Evaluation

namespace Throttles

def submissionOf (now : Moment) (event : Event) (rule : Rule) (serial : Nat) : Submission :=
  { alert := alertOf serial now event rule, channels := rule.channels.map .text }

theorem raised_of_evaluateRules {now : Moment} {event : Event} {serial : Nat}
    {throttles : Throttles} {rules : List Rule}
    (passed : (evaluateRules now event serial throttles rules).failure = none) :
    ∃ fired, List.Sublist fired rules ∧
      (evaluateRules now event serial throttles rules).Raised serial
        (fired.map (submissionOf now event)) := by
  induction rules generalizing serial throttles with
  | nil => exact ⟨[], .slnil, raised_nothing throttles serial⟩
  | cons rule rest ih =>
    rw [evaluateRules] at passed ⊢
    cases fires : throttles.fires now event rule with
    | error fault => simp [fires, failed] at passed
    | ok fired =>
      cases fired with
      | false =>
        simp only [fires] at passed ⊢
        obtain ⟨fired, among, raised⟩ := ih passed
        exact ⟨fired, among.cons rule, raised⟩
      | true =>
        cases silenced : throttles.silence now rule with
        | error fault => simp [fires, silenced, failed] at passed
        | ok silent =>
          simp only [fires, silenced] at passed ⊢
          obtain ⟨fired, among, raised⟩ := ih passed
          exact ⟨rule :: fired, among.cons_cons rule, raised.after (submissionOf now event rule)⟩

end Throttles

namespace AnomalyDetector

def submissionOf (detector : AnomalyDetector) (now : Moment) (event : Event) (finding : Finding)
    (serial : Nat) : Submission :=
  { alert := alertOf now event finding serial, channels := detector.settings.channels }

end AnomalyDetector

namespace CorrelationTracker

theorem buffers_evaluate (tracker : CorrelationTracker) (now : Moment) (serial : Nat)
    (event : Event) : (tracker.evaluate now serial event).state.buffers = tracker.buffers := by
  unfold evaluate
  dsimp only
  split <;> rfl

theorem raised_of_evaluate {tracker : CorrelationTracker} {arrival : Arrival} {serial : Nat}
    (passed : (tracker.evaluate arrival.now serial arrival.event).failure = none) :
    ∃ matched : List Match, (tracker.evaluate arrival.now serial arrival.event).Raised serial
      (matched.map (submissionOf arrival)) := by
  unfold evaluate at passed ⊢
  dsimp only at passed ⊢
  split at passed
  next => cases passed
  next occupied matched _ => exact ⟨matched, raised_ofUnnumbered _ serial _⟩

theorem raised_of_perform {tracker : CorrelationTracker} {arrival : Arrival} {serial : Nat}
    (passed : (tracker.perform (.process arrival serial)).failure = none) :
    ∃ bound entry, ∃ matched : List Match,
      tracker.settings.bufferSize.asBound = .ok bound ∧
      entryOf tracker.settings arrival.now arrival.event arrival.related = .ok entry ∧
      (tracker.after (.process arrival serial)).buffers =
        (tracker.buffered bound arrival entry).buffers ∧
      (tracker.perform (.process arrival serial)).Raised serial
        (matched.map (submissionOf arrival)) := by
  have unfolded := passed
  simp only [perform, process, settings_openBuffer, settings_record] at unfolded
  split at unfolded
  next => cases unfolded
  next bound bounded =>
    split at unfolded
    next => cases unfolded
    next entry entered =>
      split at unfolded
      next => cases unfolded
      next horizon spanned =>
        have evaluated := perform_eq_evaluate bounded entered spanned serial
        rw [evaluated] at passed
        obtain ⟨matched, raised⟩ := raised_of_evaluate passed
        refine ⟨bound, entry, matched, bounded, entered, ?_, evaluated ▸ raised⟩
        rw [after, evaluated, buffers_evaluate]

theorem alerts_of_passed {tracker : CorrelationTracker} {call : Call}
    (passed : (tracker.perform call).failure = none) :
    (tracker.perform call).alerts = (tracker.perform call).submissions.map Submission.alert := by
  cases call with
  | process arrival serial =>
    obtain ⟨_, _, _, -, -, -, raised⟩ := raised_of_perform passed
    exact raised.alerts
  | clear named => rfl
  | clearAll => rfl

end CorrelationTracker

end SensorAlerting.Detection
