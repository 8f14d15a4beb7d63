import SensorAlerting.Detection.Evaluation

set_option autoImplicit false

namespace SensorAlerting.Detection

section MapError

variable {Fault Other Item : Type}

@[simp]
theorem mapError_error (change : Fault -> Other) (fault : Fault) :
    (.error fault : Except Fault Item).mapError change = .error (change fault) := rfl

@[simp]
theorem mapError_ok (change : Fault -> Other) (item : Item) :
    (.ok item : Except Fault Item).mapError change = .ok item := rfl

end MapError

namespace Evaluation

variable {State Item Other : Type}

def outcome (evaluation : Evaluation State) : Except EvaluationFault (List Submission) :=
  match evaluation.failure with
  | some fault => .error fault
  | none => .ok evaluation.submissions

@[simp]
theorem outcome_failed (state : State) (fault : EvaluationFault) :
    (failed state fault).outcome = .error fault := rfl

theorem failure_eq_none_of_outcome {evaluation other : Evaluation State}
    (same : evaluation.outcome = other.outcome) (passed : other.failure = none) :
    evaluation.failure = none := by
  simp only [outcome, passed] at same
  cases failed : evaluation.failure with
  | none => rfl
  | some fault =>
    rw [failed] at same
    cases same

theorem numbered_filterMap {image : Submission -> Option Other} {make : Item -> Nat -> Submission}
    {seen : Item -> Option Other} (same : ∀ item serial, image (make item serial) = seen item)
    (serial : Nat) (items : List Item) :
    (numbered serial (items.map make)).filterMap image = items.filterMap seen := by
  induction items generalizing serial with
  | nil => rfl
  | cons item rest ih => simp [numbered, List.filterMap_cons, same, ih]

theorem numbered_map {image : Submission -> Other} {make : Item -> Nat -> Submission}
    {seen : Item -> Other} (same : ∀ item serial, image (make item serial) = seen item)
    (serial : Nat) (items : List Item) :
    (numbered serial (items.map make)).map image = items.map seen := by
  induction items generalizing serial with
  | nil => rfl
  | cons item rest ih => simp [numbered, same, ih]

end Evaluation

end SensorAlerting.Detection
