import SensorAlerting.Alert
import SensorAlerting.Detection.Statistics

set_option autoImplicit false

/-!
What an evaluator makes of one event: its new state, the alerts it returns, those it has handed on
with their channels, and how many alert ids it took. An evaluator that fails keeps what it did
before, but returns nothing.
-/

namespace SensorAlerting.Detection

open SensorAlerting.Number

inductive EvaluationFault where
  | number (fault : Fault)
  | window (fault : WindowFault)
  | misuse (misuse : Misuse)
deriving DecidableEq, Repr

structure Evaluation (State : Type) where
  state : State
  alerts : List Alert
  submissions : List Submission
  issued : Nat
  failure : Option EvaluationFault

namespace Evaluation

variable {State : Type}

def nothing (state : State) : Evaluation State :=
  { state, alerts := [], submissions := [], issued := 0, failure := none }

def failed (state : State) (fault : EvaluationFault) : Evaluation State :=
  { state, alerts := [], submissions := [], issued := 0, failure := some fault }

def after (submission : Submission) (later : Evaluation State) : Evaluation State :=
  { later with
    alerts := submission.alert :: later.alerts
    submissions := submission :: later.submissions
    issued := later.issued + 1 }

def map {Other : Type} (widen : State -> Other) (evaluation : Evaluation State) :
    Evaluation Other :=
  { state := widen evaluation.state
    alerts := evaluation.alerts
    submissions := evaluation.submissions
    issued := evaluation.issued
    failure := evaluation.failure }

/-- A further evaluation after one that has not failed. It is told how many alert ids were taken
and which alerts were raised before it. -/
def andThen (first : Evaluation State)
    (next : State -> Nat -> List Alert -> Evaluation State) : Evaluation State :=
  match first.failure with
  | some _ => first
  | none =>
    let later := next first.state first.issued first.alerts
    { later with
      alerts := first.alerts ++ later.alerts
      submissions := first.submissions ++ later.submissions
      issued := first.issued + later.issued }

def numbered : Nat -> List (Nat -> Submission) -> List Submission
  | _, [] => []
  | serial, unnumbered :: rest => unnumbered serial :: numbered (serial + 1) rest

def ofUnnumbered (state : State) (serial : Nat) (unnumbered : List (Nat -> Submission)) :
    Evaluation State :=
  { state
    alerts := (numbered serial unnumbered).map Submission.alert
    submissions := numbered serial unnumbered
    issued := unnumbered.length
    failure := none }

end Evaluation

end SensorAlerting.Detection
