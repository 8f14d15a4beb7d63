import SensorAlerting.Check.Fields

set_option autoImplicit false

namespace SensorAlerting.Checked

variable {Item Other : Type}

def outcome : Checked Item -> Option (List Check.Fault)
  | .good _ => none
  | .bad faults => some faults

def both (first second : Option (List Check.Fault)) : Option (List Check.Fault) :=
  first.merge (· ++ ·) second

@[simp]
theorem outcome_seq (function : Checked (Item -> Other)) (argument : Checked Item) :
    (function <*> argument).outcome = both function.outcome argument.outcome := by
  cases function with
  | good apply => cases argument <;> rfl
  | bad faults =>
    cases argument with
    | good item => simp [Seq.seq, apply, outcome, both, Checked.faults]
    | bad more => rfl

theorem outcome_also_nil (checked : Checked Item) :
    (checked.also []).outcome = checked.outcome := by
  cases checked <;> simp [also, outcome]

theorem both_none (first : Option (List Check.Fault)) : both first none = first := by
  cases first <;> rfl

theorem both_cons_ne (first : Option (List Check.Fault)) (fault : Check.Fault)
    (faults : List Check.Fault) : both first (some (fault :: faults)) ≠ first := by
  cases first <;> simp [both]

theorem momentOfNumber_bad {amount : Number.Quantity} {faults : List Check.Fault}
    (failed : Check.momentOfNumber amount = .bad faults) : ∃ fault, faults = [fault] := by
  unfold Check.momentOfNumber at failed
  split at failed
  next => cases failed
  next => exact ⟨_, (bad.inj failed).symm⟩

theorem momentOfText_bad {outcome : Except Time.StampFault Time.Moment}
    {faults : List Check.Fault} (failed : Check.momentOfText outcome = .bad faults) :
    ∃ fault, faults = [fault] := by
  unfold Check.momentOfText at failed
  split at failed
  next => cases failed
  next => exact ⟨_, (bad.inj failed).symm⟩
  next => exact ⟨_, (bad.inj failed).symm⟩

theorem moment_bad {value : Value} {faults : List Check.Fault}
    (failed : Check.moment value = .bad faults) : ∃ fault, faults = [fault] := by
  cases value with
  | moment | date => cases failed
  | float | undefined =>
    rw [Check.moment] at failed
    exact momentOfNumber_bad failed
  | text content => exact momentOfText_bad failed
  | octets bytes => exact momentOfText_bad failed
  | int number =>
    simp only [Check.moment] at failed
    split at failed
    next => exact momentOfNumber_bad failed
    next => exact ⟨_, (bad.inj failed).symm⟩
  | _ => exact ⟨_, (bad.inj failed).symm⟩

end SensorAlerting.Checked
