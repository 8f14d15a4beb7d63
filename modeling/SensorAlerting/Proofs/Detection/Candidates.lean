import SensorAlerting.Proofs.Detection.Stored

set_option autoImplicit false

/-!
What matters of the rules that an event is evaluated with. Those that are off, or that do not apply
to the event, do not matter at all. The order of rules with different ids matters to nothing but the
order of the alerts and of the silences, and the order of the silences cannot be told from anything
that comes later.
-/

namespace SensorAlerting

open SensorAlerting.Number SensorAlerting.Time

def Rule.pauseEnd (now : Moment) (rule : Rule) : Option Moment :=
  if 0 < rule.throttleMinutes then rule.throttle.toOption.bind now.add? else none

namespace Detection.Throttles

section Filtering

variable {now : Moment} {event : Event}

theorem fires_of_passedOver (throttles : Throttles) {rule : Rule}
    (passedOver : (rule.enabled && rule.appliesTo event) = false) :
    throttles.fires now event rule = .ok false := by
  rw [fires, passedOver]
  rfl

theorem evaluateRules_filter (serial : Nat) (throttles : Throttles) (rules : List Rule) :
    evaluateRules now event serial throttles
        (rules.filter fun rule => rule.enabled && rule.appliesTo event) =
      evaluateRules now event serial throttles rules := by
  -- By induction on the rules: at each of them the silences are the same on both sides.
  induction rules generalizing serial throttles with
  | nil => rfl
  | cons rule rest ih =>
    cases candidate : rule.enabled && rule.appliesTo event with
    | false =>
      rw [List.filter_cons_of_neg (by simp [candidate]), ih, evaluateRules,
        fires_of_passedOver throttles candidate]
    | true =>
      rw [List.filter_cons_of_pos (by simp [candidate]), evaluateRules, evaluateRules]
      simp only [ih]

end Filtering

/-- A store offers every rule that an evaluation does not pass over, and in the order of the store.
So an event comes to the same with these rules as with all that are stored: in what is raised and
handed on, in the silences that stay, and in how it fails. -/
theorem evaluate_forEvent (store : RuleStore) (throttles : Throttles) (now : Moment)
    (serial : Nat) (event : Event) :
    throttles.evaluate now serial event (store.forEvent event) =
      throttles.evaluate now serial event store.toList :=
  evaluateRules_filter serial (throttles.purge now) store.toList

section Passing

variable {throttles silenced other : Throttles} {now : Moment} {event : Event} {rule : Rule}

/-- A rule that an evaluation gets past: its condition has an answer, and if it is due it can
pause. -/
structure Passes (throttles : Throttles) (now : Moment) (event : Event) (rule : Rule) : Prop where
  answered : throttles.fires now event rule = .ok (throttles.isDue now event rule)
  pauses : throttles.isDue now event rule = true -> rule.canPause now = true

theorem eq_isDue_of_fires {fired : Bool} (answered : throttles.fires now event rule = .ok fired) :
    fired = throttles.isDue now event rule := by
  unfold fires at answered
  unfold isDue Rule.isFulfilled
  cases candidate : rule.enabled && rule.appliesTo event with
  | false => simpa [candidate, eq_comm] using answered
  | true =>
    cases compiled : rule.compiled with
    | none => simpa [candidate, compiled, eq_comm] using answered
    | some condition =>
      cases outcome : condition.holdsOn event with
      | error fault => simp [candidate, compiled, outcome, Except.map] at answered
      | ok holds =>
        simpa [candidate, compiled, outcome, Except.map, Except.toOption, eq_comm] using answered

theorem isDue_congr
    (same : throttles.isThrottled now rule.ruleId = other.isThrottled now rule.ruleId) :
    throttles.isDue now event rule = other.isDue now event rule := by
  rw [isDue, isDue, same]

/-- Whether an evaluation gets past a rule depends on no silence but its own. -/
theorem Passes.congr (passes : throttles.Passes now event rule)
    (same : throttles.isThrottled now rule.ruleId = other.isThrottled now rule.ruleId) :
    other.Passes now event rule where
  answered := by
    rw [<- isDue_congr same, <- passes.answered, fires, fires, same]
  pauses due := passes.pauses ((isDue_congr same).trans due)

def paused (throttles : Throttles) (now : Moment) (rule : Rule) : Throttles :=
  match rule.pauseEnd now with
  | some silentUntil =>
    { silentUntil := Entries.put throttles.silentUntil rule.ruleId silentUntil }
  | none => throttles

theorem silence_eq_map (throttles : Throttles) (now : Moment) (rule : Rule) :
    throttles.silence now rule =
      (Throttles.empty.silence now rule).map fun _ => throttles.paused now rule := by
  unfold silence paused Rule.pauseEnd
  by_cases positive : 0 < rule.throttleMinutes
  next =>
    simp only [positive, if_true]
    cases rule.throttle with
    | error fault => rfl
    | ok span =>
      simp only [Except.toOption, Option.bind_some]
      cases now.add? span <;> rfl
  next =>
    simp only [positive, if_false]
    rfl

theorem silence_eq_paused (done : throttles.silence now rule = .ok silenced) :
    silenced = throttles.paused now rule := by
  rw [silence_eq_map] at done
  cases possible : Throttles.empty.silence now rule with
  | error fault => simp [possible, Except.map] at done
  | ok quieted => simpa [possible, Except.map, eq_comm] using done

theorem get?_paused (throttles : Throttles) (now : Moment) (rule : Rule) (ruleId : String) :
    Entries.get? (throttles.paused now rule).silentUntil ruleId =
      if rule.ruleId = ruleId then (rule.pauseEnd now).or (Entries.get? throttles.silentUntil ruleId)
      else Entries.get? throttles.silentUntil ruleId := by
  unfold paused
  cases rule.pauseEnd now with
  | none => simp
  | some silentUntil =>
    by_cases same : rule.ruleId = ruleId
    next => simp [same]
    next => simp [same, Entries.get?_put_other _ _ same]

theorem isThrottled_paused {ruleId : String} (different : rule.ruleId ≠ ruleId) :
    (throttles.paused now rule).isThrottled now ruleId = throttles.isThrottled now ruleId := by
  rw [isThrottled, isThrottled, get?_paused, if_neg different]

theorem distinct_paused (single : Entries.Distinct throttles.silentUntil) (now : Moment)
    (rule : Rule) : Entries.Distinct (throttles.paused now rule).silentUntil := by
  unfold paused
  split
  next => exact single.put _ _
  next => exact single

end Passing

section Order

variable {throttles last other : Throttles} {now : Moment} {event : Event} {rule : Rule}
  {rules order : List Rule}

/-- The silences after some rules with different ids were looked at. Rules that were due are silent
as long as they pause, and all other silences are as they were. -/
structure Leaves (throttles : Throttles) (now : Moment) (event : Event) (rules : List Rule)
    (last : Throttles) : Prop where
  single : Entries.Distinct last.silentUntil
  pausing : ∀ rule ∈ rules, throttles.isDue now event rule = true -> ∀ silentUntil,
    rule.pauseEnd now = some silentUntil ->
      Entries.get? last.silentUntil rule.ruleId = some silentUntil
  kept : ∀ ruleId, (∀ rule ∈ rules, throttles.isDue now event rule = true ->
      rule.ruleId = ruleId -> rule.pauseEnd now = none) ->
    Entries.get? last.silentUntil ruleId = Entries.get? throttles.silentUntil ruleId

theorem Leaves.idle (leaves : Leaves throttles now event rules last)
    (quiet : throttles.isDue now event rule = false) :
    Leaves throttles now event (rule :: rules) last where
  single := leaves.single
  pausing := by
    intro looked member due silentUntil pauses
    rcases List.mem_cons.mp member with rfl | later
    next => simp [quiet] at due
    next => exact leaves.pausing looked later due silentUntil pauses
  kept := by
    intro ruleId unpaused
    exact leaves.kept ruleId fun looked later => unpaused looked (List.mem_cons_of_mem rule later)

theorem Leaves.fired (fresh : rule.ruleId ∉ rules.map Rule.ruleId)
    (due : throttles.isDue now event rule = true)
    (leaves : Leaves (throttles.paused now rule) now event rules last) :
    Leaves throttles now event (rule :: rules) last := by
  have apart : ∀ looked ∈ rules, rule.ruleId ≠ looked.ruleId := by
    intro looked later same
    exact fresh (same ▸ List.mem_map_of_mem later)
  have sameDue : ∀ looked ∈ rules, (throttles.paused now rule).isDue now event looked =
      throttles.isDue now event looked := by
    intro looked later
    exact isDue_congr (isThrottled_paused (apart looked later))
  refine ⟨leaves.single, ?_, ?_⟩
  next =>
    intro looked member lookedDue silentUntil pauses
    rcases List.mem_cons.mp member with rfl | later
    next =>
      -- No later rule has the same id.
      rw [leaves.kept looked.ruleId fun other later _ same => absurd same.symm (apart other later),
        get?_paused, if_pos rfl, pauses, Option.some_or]
    next => exact leaves.pausing looked later ((sameDue looked later).trans lookedDue) _ pauses
  next =>
    intro ruleId unpaused
    have later : ∀ looked ∈ rules, (throttles.paused now rule).isDue now event looked = true ->
        looked.ruleId = ruleId -> looked.pauseEnd now = none := by
      intro looked later lookedDue
      exact unpaused looked (List.mem_cons_of_mem rule later)
        ((sameDue looked later).symm.trans lookedDue)
    rw [leaves.kept ruleId later, get?_paused]
    split
    next same => rw [unpaused rule List.mem_cons_self due same, Option.none_or]
    next => rfl

theorem Leaves.perm (leaves : Leaves throttles now event rules last)
    (otherLeaves : Leaves throttles now event order other) (perm : order.Perm rules) :
    other.silentUntil.Perm last.silentUntil := by
  refine Entries.perm_of_get? otherLeaves.single leaves.single fun ruleId => ?_
  by_cases paused : ∃ rule ∈ rules, throttles.isDue now event rule = true ∧
      rule.ruleId = ruleId ∧ rule.pauseEnd now ≠ none
  next =>
    obtain ⟨rule, member, due, rfl, pauses⟩ := paused
    obtain ⟨silentUntil, pauses⟩ := Option.ne_none_iff_exists'.mp pauses
    rw [leaves.pausing rule member due _ pauses,
      otherLeaves.pausing rule (perm.mem_iff.mpr member) due _ pauses]
  next =>
    have unpaused : ∀ rule ∈ rules, throttles.isDue now event rule = true ->
        rule.ruleId = ruleId -> rule.pauseEnd now = none := by
      intro rule member due same
      exact Classical.byContradiction fun pauses => paused ⟨rule, member, due, same, pauses⟩
    rw [leaves.kept ruleId unpaused,
      otherLeaves.kept ruleId fun rule member => unpaused rule (perm.mem_iff.mp member)]

theorem passes_of_passed {serial : Nat} (ids : (rules.map Rule.ruleId).Nodup)
    (passed : (evaluateRules now event serial throttles rules).failure = none) :
    ∀ rule ∈ rules, throttles.Passes now event rule := by
  induction rules generalizing serial throttles with
  | nil => exact List.forall_mem_nil _
  | cons first rest ih =>
    obtain ⟨fresh, later⟩ := List.nodup_cons.mp ids
    rw [evaluateRules] at passed
    rw [List.forall_mem_cons]
    cases answered : throttles.fires now event first with
    | error fault => simp [answered, Evaluation.failed] at passed
    | ok fired =>
      obtain rfl := eq_isDue_of_fires answered
      simp only [answered] at passed
      cases due : throttles.isDue now event first with
      | false =>
        simp only [due] at passed
        exact ⟨⟨answered, by simp [due]⟩, ih later passed⟩
      | true =>
        simp only [due] at passed
        cases done : throttles.silence now first with
        | error fault => simp [done, Evaluation.failed] at passed
        | ok silenced =>
          simp only [done] at passed
          obtain rfl := silence_eq_paused done
          have able : first.canPause now = true := by
            by_contra unable
            obtain ⟨fault, failed⟩ :=
              silence_of_not_canPause throttles (Bool.eq_false_iff.mpr unable)
            rw [failed] at done
            cases done
          refine ⟨⟨answered, fun _ => able⟩, fun looked member => ?_⟩
          -- What silences the first rule silences no other.
          have apart : first.ruleId ≠ looked.ruleId := by
            intro same
            exact fresh (same ▸ List.mem_map_of_mem member)
          exact (ih later passed looked member).congr (isThrottled_paused apart)

/-- With different ids, an evaluation that gets past each of its rules raises the alerts of those
that are due from the start, in their order. -/
theorem evaluateRules_of_passes (single : Entries.Distinct throttles.silentUntil)
    (ids : (rules.map Rule.ruleId).Nodup) (passes : ∀ rule ∈ rules, throttles.Passes now event rule)
    (serial : Nat) :
    (evaluateRules now event serial throttles rules).Raised serial
        ((rules.filter (throttles.isDue now event)).map (submissionOf now event)) ∧
      Leaves throttles now event rules (evaluateRules now event serial throttles rules).state := by
  induction rules generalizing serial throttles with
  | nil => exact ⟨Evaluation.raised_nothing throttles serial, single, by simp, fun _ _ => rfl⟩
  | cons first rest ih =>
    obtain ⟨fresh, later⟩ := List.nodup_cons.mp ids
    obtain ⟨⟨answered, pauses⟩, passesRest⟩ := List.forall_mem_cons.mp passes
    rw [evaluateRules, answered]
    cases due : throttles.isDue now event first with
    | false =>
      rw [List.filter_cons_of_neg (by simp [due])]
      obtain ⟨raised, leaves⟩ := ih single later passesRest serial
      exact ⟨raised, leaves.idle due⟩
    | true =>
      rw [List.filter_cons_of_pos due]
      obtain ⟨silenced, done, -⟩ := silence_of_canPause throttles (pauses due)
      obtain rfl := silence_eq_paused done
      have apart : ∀ looked ∈ rest, first.ruleId ≠ looked.ruleId := by
        intro looked member same
        exact fresh (same ▸ List.mem_map_of_mem member)
      have sameDue : rest.filter ((throttles.paused now first).isDue now event) =
          rest.filter (throttles.isDue now event) :=
        List.filter_congr fun looked member =>
          isDue_congr (isThrottled_paused (apart looked member))
      obtain ⟨raised, leaves⟩ := ih (distinct_paused single now first) later
        (fun looked member => (passesRest looked member).congr
          (isThrottled_paused (apart looked member)).symm) (serial + 1)
      rw [sameDue] at raised
      simp only [done]
      exact ⟨raised.after (submissionOf now event first), leaves.fired fresh due⟩

end Order

section Later

variable {throttles other : Throttles} {now : Moment} {event : Event} {rule : Rule}

structure Reordered (throttles other : Throttles) : Prop where
  single : Entries.Distinct other.silentUntil
  perm : throttles.silentUntil.Perm other.silentUntil

structure Alike (first second : Evaluation Throttles) : Prop where
  silences : Reordered first.state second.state
  alerts : first.alerts = second.alerts
  submissions : first.submissions = second.submissions
  issued : first.issued = second.issued
  failure : first.failure = second.failure

namespace Reordered

theorem isThrottled (reordered : Reordered throttles other) (now : Moment) (ruleId : String) :
    throttles.isThrottled now ruleId = other.isThrottled now ruleId := by
  rw [Throttles.isThrottled, Throttles.isThrottled,
    Entries.get?_of_perm reordered.single reordered.perm]

theorem purge (reordered : Reordered throttles other) (now : Moment) :
    Reordered (throttles.purge now) (other.purge now) where
  single := reordered.single.filter _
  perm := reordered.perm.filter _

theorem clear (reordered : Reordered throttles other) (ruleId : String) :
    Reordered (throttles.clear ruleId) (other.clear ruleId) where
  single := reordered.single.remove ruleId
  perm := reordered.perm.filter _

theorem paused (reordered : Reordered throttles other) (now : Moment) (rule : Rule) :
    Reordered (throttles.paused now rule) (other.paused now rule) := by
  unfold Throttles.paused
  split
  next => exact ⟨reordered.single.put _ _, Entries.perm_put reordered.single reordered.perm _ _⟩
  next => exact reordered

theorem fires (reordered : Reordered throttles other) (now : Moment) (event : Event)
    (rule : Rule) : throttles.fires now event rule = other.fires now event rule := by
  rw [Throttles.fires, Throttles.fires, reordered.isThrottled]

theorem nothing (reordered : Reordered throttles other) :
    Alike (.nothing throttles) (.nothing other) := ⟨reordered, rfl, rfl, rfl, rfl⟩

theorem failed (reordered : Reordered throttles other) (fault : EvaluationFault) :
    Alike (.failed throttles fault) (.failed other fault) := ⟨reordered, rfl, rfl, rfl, rfl⟩

end Reordered

theorem Alike.after {first second : Evaluation Throttles} (alike : Alike first second)
    (submission : Submission) : Alike (first.after submission) (second.after submission) where
  silences := alike.silences
  alerts := congrArg (submission.alert :: ·) alike.alerts
  submissions := congrArg (submission :: ·) alike.submissions
  issued := congrArg (· + 1) alike.issued
  failure := alike.failure

theorem Reordered.evaluateRules (reordered : Reordered throttles other) (now : Moment)
    (event : Event) (serial : Nat) (rules : List Rule) :
    Alike (Throttles.evaluateRules now event serial throttles rules)
      (Throttles.evaluateRules now event serial other rules) := by
  induction rules generalizing serial throttles other with
  | nil => exact reordered.nothing
  | cons rule rest ih =>
    rw [Throttles.evaluateRules, Throttles.evaluateRules, reordered.fires]
    cases other.fires now event rule with
    | error fault => exact reordered.failed _
    | ok fired =>
      cases fired with
      | false => exact ih reordered serial
      | true =>
        dsimp only
        rw [silence_eq_map throttles, silence_eq_map other]
        cases Throttles.empty.silence now rule with
        | error fault => exact ⟨reordered, rfl, rfl, rfl, rfl⟩
        | ok _ => exact (ih (reordered.paused now rule) (serial + 1)).after _

namespace Stage

variable {stage same : Stage}

theorem perform_reordered (reordered : Reordered stage.throttles same.throttles)
    (serial : stage.serial = same.serial) (call : Call) :
    Alike (stage.perform call) (same.perform call) := by
  cases call with
  | evaluate now event rules =>
    rw [perform, perform, serial]
    exact (reordered.purge now).evaluateRules now event same.serial rules
  | clear ruleId => exact (reordered.clear ruleId).nothing
  | clearAll => exact Reordered.nothing ⟨List.nodup_nil, .nil⟩

theorem run_reordered (reordered : Reordered stage.throttles same.throttles)
    (serial : stage.serial = same.serial) (calls : List Call) :
    Reordered (stage.run calls).throttles (same.run calls).throttles ∧
      (stage.run calls).serial = (same.run calls).serial := by
  induction calls generalizing stage same with
  | nil => exact ⟨reordered, serial⟩
  | cons call rest ih =>
    have alike := perform_reordered reordered serial call
    exact ih alike.silences (by rw [after, after, serial, alike.issued])

end Stage

/-- The order of rules with different ids does not matter, as far as their evaluation does not fail.
In any order the alerts are those of the rules that were due before, in the order of the rules, and
the silences are the same. So whatever is called later comes to the same. -/
theorem evaluate_perm {stage : Stage} (single : Entries.Distinct stage.throttles.silentUntil)
    {now : Moment} {event : Event} {rules order : List Rule}
    (ids : (rules.map Rule.ruleId).Nodup) (perm : order.Perm rules)
    (passed : (stage.perform (.evaluate now event rules)).failure = none) :
    let due := stage.throttles.isDue now event
    let first := Call.evaluate now event rules
    let second := Call.evaluate now event order
    (stage.perform first).Raised stage.serial
      ((rules.filter due).map (submissionOf now event)) ∧
    (stage.perform second).Raised stage.serial
      ((order.filter due).map (submissionOf now event)) ∧
    (stage.perform second).state.silentUntil.Perm (stage.perform first).state.silentUntil ∧
    ∀ calls call, Alike (((stage.after second).run calls).perform call)
      (((stage.after first).run calls).perform call) := by
  intro due first second
  have sameDue : (stage.throttles.purge now).isDue now event = due := by
    funext rule
    exact isDue_congr (isThrottled_purge single rule.ruleId)
  have purged : Entries.Distinct (stage.throttles.purge now).silentUntil := single.filter _
  have passes := passes_of_passed ids passed
  have otherIds : (order.map Rule.ruleId).Nodup := (perm.map Rule.ruleId).nodup_iff.mpr ids
  obtain ⟨raised, leaves⟩ := evaluateRules_of_passes purged ids passes stage.serial
  obtain ⟨otherRaised, otherLeaves⟩ := evaluateRules_of_passes purged otherIds
    (fun rule member => passes rule (perm.mem_iff.mp member)) stage.serial
  rw [sameDue] at raised otherRaised
  have silences := leaves.perm otherLeaves perm
  have issued : (stage.perform second).issued = (stage.perform first).issued := by
    refine otherRaised.issued.trans (Eq.trans ?_ raised.issued.symm)
    rw [List.length_map, List.length_map, (perm.filter due).length_eq]
  refine ⟨raised, otherRaised, silences, fun calls call => ?_⟩
  have serial : (stage.after second).serial = (stage.after first).serial :=
    congrArg (stage.serial + ·) issued
  obtain ⟨reordered, sameSerial⟩ := Stage.run_reordered ⟨leaves.single, silences⟩ serial calls
  exact Stage.perform_reordered reordered sameSerial call

def smokeRules : List Rule :=
  [quarterly, { quarterly with ruleId := "fire", severity := .critical, throttleGiven := some 5 }]

theorem evaluate_perm_smoke :
    let event : Event :=
      { deviceId := "hall", sensorType := "gas", location := "hall", timestamp := universal 0
        readings := [("mq135", .int 60)] }
    let stage := Stage.start 0
    let first := Call.evaluate (universal 0) event smokeRules
    let second := Call.evaluate (universal 0) event smokeRules.reverse
    let ruleIds := fun call => (stage.perform call).submissions.map fun submission =>
      submission.alert.ruleId
    Entries.Distinct stage.throttles.silentUntil ∧ (smokeRules.map Rule.ruleId).Nodup ∧
      smokeRules.reverse.Perm smokeRules ∧ (stage.perform first).failure = none ∧
      ruleIds first = ["smoke", "fire"] ∧ ruleIds second = ["fire", "smoke"] ∧
      (stage.perform first).state.ruleIds = ["smoke", "fire"] ∧
      (stage.perform second).state.ruleIds = ["fire", "smoke"] ∧
      ∀ calls call, Alike (((stage.after second).run calls).perform call)
        (((stage.after first).run calls).perform call) := by
  intro event stage first second ruleIds
  have single : Entries.Distinct stage.throttles.silentUntil := List.nodup_nil
  have ids : (smokeRules.map Rule.ruleId).Nodup := by decide
  have perm : smokeRules.reverse.Perm smokeRules := List.reverse_perm smokeRules
  have passed : (stage.perform first).failure = none := by decide +kernel
  obtain ⟨-, -, -, later⟩ := evaluate_perm single ids perm passed
  exact ⟨single, ids, perm, passed, by decide +kernel, by decide +kernel, by decide +kernel,
    by decide +kernel, later⟩

end Later

end Detection.Throttles

end SensorAlerting
