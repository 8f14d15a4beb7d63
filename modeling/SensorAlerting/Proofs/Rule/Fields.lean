import SensorAlerting.Proofs.Check.Passed
import SensorAlerting.Rule

set_option autoImplicit false

namespace SensorAlerting.Rule

open SensorAlerting.Number SensorAlerting.Time

structure ReadFrom (now : Moment) (fields : Entries String Value) (rule : Rule) : Prop where
  ruleId : Check.required fields "rule_id" Check.someText = .good rule.ruleId
  condition : Check.required fields "condition" Check.someText = .good rule.condition
  throttle : Check.defaulted fields "throttle_minutes" none
    (fun value => some <$> Check.numberFrom 0 value) = .good rule.throttleGiven
  createdAt : Check.defaulted fields "created_at" now Check.moment = .good rule.createdAt
  updatedAt : Check.defaulted fields "updated_at" now Check.moment = .good rule.updatedAt
  compiled : rule.compiled = Condition.compile? rule.condition

theorem readFrom_of_ofFields {now : Moment} {fields : Entries String Value} {rule : Rule}
    (passed : ofFields now fields = .good rule) : ReadFrom now fields rule := by
  -- The fields are peeled off from the last one.
  replace passed := (Checked.good_of_also passed).1
  replace passed := Checked.good_of_seq passed
  obtain ⟨_, _, passed, updatedAt, rfl⟩ := passed
  replace passed := Checked.good_of_seq passed
  obtain ⟨_, _, passed, createdAt, rfl⟩ := passed
  iterate 2
    replace passed := Checked.good_of_seq passed
    obtain ⟨_, _, passed, -, rfl⟩ := passed
  replace passed := Checked.good_of_seq passed
  obtain ⟨_, _, passed, throttle, rfl⟩ := passed
  iterate 2
    replace passed := Checked.good_of_seq passed
    obtain ⟨_, _, passed, -, rfl⟩ := passed
  replace passed := Checked.good_of_seq passed
  obtain ⟨_, _, passed, condition, rfl⟩ := passed
  iterate 2
    replace passed := Checked.good_of_seq passed
    obtain ⟨_, _, passed, -, rfl⟩ := passed
  obtain ⟨_, ruleId, rfl⟩ := Checked.good_of_map passed
  exact ⟨ruleId, condition, throttle, createdAt, updatedAt, rfl⟩

def IsSound (rule : Rule) : Prop := 0 <= rule.throttleMinutes

/-- No rule that was read has a throttle below nought, nor one that is no number. -/
theorem ReadFrom.isSound {now : Moment} {fields : Entries String Value} {rule : Rule}
    (read : ReadFrom now fields rule) : rule.IsSound := by
  unfold IsSound throttleMinutes
  cases Checked.good_of_defaulted read.throttle with
  | inl left =>
    rw [left]
    decide +kernel
  | inr given =>
    obtain ⟨_, given⟩ := given
    obtain ⟨minutes, number, same⟩ := Checked.good_of_map given
    rw [<- same]
    have atLeast := (Checked.good_of_ensure number).2
    have nought : (ofInt? 0).getD 0 = 0 := by decide +kernel
    rw [nought] at atLeast
    exact of_decide_eq_true atLeast

end SensorAlerting.Rule
