import SensorAlerting.Proofs.Entries
import SensorAlerting.Proofs.Rule.Fields
import SensorAlerting.RuleStore

set_option autoImplicit false

/-!
What a rule is known by once its definition has been judged: it has an id and a condition that
compiles, its throttle is not below nought, and its times are those of the store and not of the
definition.
-/

namespace SensorAlerting

open SensorAlerting.Number SensorAlerting.Time SensorAlerting.Rule.Definition

namespace Rule.Definition

theorem text_of_checkRuleId {ruleId : Value} (clear : checkRuleId ruleId = []) :
    ∃ name, ruleId = .text name := by
  unfold checkRuleId at clear
  split at clear
  next => cases clear
  next =>
    cases ruleId with
    | text name => exact ⟨name, rfl⟩
    | _ => cases clear

theorem compiles_of_checkCondition {condition : Value} (clear : checkCondition condition = []) :
    ∃ source compiled, condition = .text source ∧ Condition.compile? source = some compiled := by
  unfold checkCondition at clear
  split at clear
  next => cases clear
  next =>
    cases condition with
    | text source =>
      cases compiles : Condition.compile? source with
      | some compiled => exact ⟨source, compiled, rfl, compiles⟩
      | none => simp [Condition.compile, compiles] at clear
    | _ => cases clear

end Rule.Definition

namespace RuleStore

section Stamp

variable (existing : Option Rule) (now : Moment) (fields : Entries String Value)

theorem get?_stampFields {name : String} (noChannels : name ≠ "channels") :
    Entries.get? (stampFields existing now fields) name =
      Entries.get? (stampTimes existing now fields) name := by
  unfold stampFields
  dsimp only
  split
  next => simp [Entries.get?_remove, noChannels.symm]
  next => rfl

theorem get?_stampFields_updated :
    Entries.get? (stampFields existing now fields) "updated_at" = some (.moment now) := by
  rw [get?_stampFields existing now fields (by decide)]
  exact Entries.get?_put_same _ _ _

theorem get?_stampFields_created (old : Rule) :
    Entries.get? (stampFields (some old) now fields) "created_at" =
      some (.moment old.createdAt) := by
  rw [get?_stampFields (some old) now fields (by decide), stampTimes,
    Entries.get?_put_other _ _ (by decide)]
  exact Entries.get?_put_same _ _ _

theorem get?_stampFields_other {name : String} (noTime : name ≠ "created_at")
    (noOther : name ≠ "updated_at") (noChannels : name ≠ "channels") :
    Entries.get? (stampFields existing now fields) name = Entries.get? fields name := by
  rw [get?_stampFields existing now fields noChannels, stampTimes.eq_def,
    Entries.get?_put_other _ _ noOther.symm]
  cases existing with
  | some old => exact Entries.get?_put_other _ _ noTime.symm
  | none =>
    dsimp only
    split
    next => rfl
    next => exact Entries.get?_put_other _ _ noTime.symm

end Stamp

def HasCondition (rule : Rule) : Prop :=
  ∃ condition, rule.compiled = some condition ∧
    Condition.compile (.text rule.condition) = .ok condition

structure Admitted (existing : String -> Option Rule) (now : Moment) (rule : Rule) : Prop where
  named : rule.ruleId ≠ ""
  compiled : HasCondition rule
  sound : rule.IsSound
  updatedAt : rule.updatedAt = now
  createdAt : ∀ old, existing rule.ruleId = some old -> rule.createdAt = old.createdAt

theorem eq_of_required {fields : Entries String Value} {name content found : String}
    (given : Entries.get? fields name = some (.text content))
    (passed : Check.required fields name Check.someText = .good found) :
    found = content ∧ found ≠ "" := by
  simp only [Check.required, given] at passed
  obtain ⟨same, notEmpty⟩ := Checked.good_of_ensure (Checked.good_of_inside passed)
  obtain rfl : content = found := by simpa [Check.text] using same
  refine ⟨rfl, ?_⟩
  rintro rfl
  cases notEmpty

theorem eq_of_stamped {fields : Entries String Value} {name : String}
    {fallback given found : Moment}
    (stamped : Entries.get? fields name = some (.moment given))
    (passed : Check.defaulted fields name fallback Check.moment = .good found) : found = given := by
  simp only [Check.defaulted, stamped] at passed
  have same := Checked.good_of_inside passed
  simpa [Check.moment] using same.symm

theorem get?_of_ofOption {fields : Entries String Value} {name content : String}
    (found : Value.ofOption (Entries.get? fields name) = .text content) :
    Entries.get? fields name = some (.text content) := by
  cases given : Entries.get? fields name with
  | none =>
    rw [given] at found
    cases found
  | some value =>
    rw [given] at found
    exact congrArg some found

theorem admitted_of_judge {existing : String -> Option Rule} {now : Moment} {definition : Value}
    {rule : Rule} (judged : judge existing now definition = .ok rule) :
    Admitted existing now rule := by
  unfold judge at judged
  split at judged
  next given =>
    dsimp only at judged
    generalize normalize given = fields at judged
    split at judged
    next clear =>
      split at judged
      next made passed =>
        obtain rfl : made = rule := by simpa using judged
        -- Each check has found nothing, so that the id and the condition are known by their texts.
        simp only [violations, List.isEmpty_iff, List.append_eq_nil_iff, and_assoc] at clear
        obtain ⟨noRuleId, noCondition, -⟩ := clear
        obtain ⟨name, isText⟩ := text_of_checkRuleId noRuleId
        have givenId := get?_of_ofOption isText
        have read := Rule.readFrom_of_ofFields passed
        have stays := @get?_stampFields_other ((ruleId? fields).bind existing) now fields
        obtain ⟨sameId, notEmpty⟩ := eq_of_required
          ((stays (by decide) (by decide) (by decide)).trans givenId) read.ruleId
        refine ⟨notEmpty, ?_, read.isSound,
          eq_of_stamped (get?_stampFields_updated _ now fields) read.updatedAt, ?_⟩
        next =>
          obtain ⟨source, compiled, isSource, compiles⟩ := compiles_of_checkCondition noCondition
          obtain ⟨sameSource, -⟩ := eq_of_required
            ((stays (by decide) (by decide) (by decide)).trans (get?_of_ofOption isSource))
            read.condition
          rw [<- sameSource] at compiles
          exact ⟨compiled, read.compiled.trans compiles, by simp [Condition.compile, compiles]⟩
        next =>
          intro old found
          have known : (ruleId? fields).bind existing = some old := by
            simp [ruleId?, givenId, Value.text?, <- sameId, found]
          rw [known] at read
          exact eq_of_stamped (get?_stampFields_created now fields old) read.createdAt
      next => cases judged
    next => cases judged
  next => cases judged

end RuleStore

end SensorAlerting
