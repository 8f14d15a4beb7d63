import SensorAlerting.Proofs.Condition.Evaluating
import SensorAlerting.Proofs.Detection.Agreement
import SensorAlerting.Proofs.Detection.Throttling
import SensorAlerting.Proofs.RuleStore.Histories
import SensorAlerting.Proofs.Time.Spans

set_option autoImplicit false

/-!
What the evaluation of an event comes to with the rules in store. It gets as far as the first rule
that is due and whose silence would end outside the calendar; a store takes rules with such
throttles.
-/

namespace SensorAlerting

open SensorAlerting.Number SensorAlerting.Time

namespace Rule

def isFulfilled (rule : Rule) (event : Event) : Bool :=
  rule.compiled.any fun condition => (condition.holdsOn event).toOption.getD false

/-- Whether the silence that a firing starts has an end. A rule without a throttle starts none. -/
def canPause (now : Moment) (rule : Rule) : Bool :=
  !decide (0 < rule.throttleMinutes) ||
    rule.throttle.toOption.any fun span => inCalendar (now.wall + span)

end Rule

def Time.Moment.IsInCentury (now : Moment) : Prop :=
  946684800 * second <= now.wall ∧ now.wall < 4133980800 * second

namespace Detection.Throttles

def isDue (throttles : Throttles) (now : Moment) (event : Event) (rule : Rule) : Bool :=
  rule.enabled && rule.appliesTo event && rule.isFulfilled event &&
    !throttles.isThrottled now rule.ruleId

section Evaluating

variable {throttles : Throttles} {now : Moment} {event : Event} {rule : Rule}

theorem fires_eq (fits : ∀ path n, event.Found path (.int n) -> Fits n) :
    throttles.fires now event rule = .ok (throttles.isDue now event rule) := by
  unfold fires isDue Rule.isFulfilled
  cases candidate : rule.enabled && rule.appliesTo event with
  | false => simp
  | true =>
    cases rule.compiled with
    | none => simp
    | some condition =>
      obtain ⟨flag, held⟩ := Condition.exists_holdsOn (fits condition.path)
      simp [held, Except.map, Except.toOption]

theorem silence_of_canPause (throttles : Throttles) (able : rule.canPause now = true) :
    ∃ silenced, throttles.silence now rule = .ok silenced ∧
      ∀ other, rule.ruleId ≠ other ->
        silenced.isThrottled now other = throttles.isThrottled now other := by
  unfold silence
  split
  next positive =>
    simp only [Rule.canPause, positive, decide_true, Bool.not_true, Bool.false_or] at able
    cases spanned : rule.throttle with
    | error fault => simp [spanned, Except.toOption] at able
    | ok span =>
      have within : inCalendar (now.wall + span) = true := by
        simpa [spanned, Except.toOption] using able
      refine ⟨_, by simp only [Moment.add?, within, if_true]; rfl, fun other different => ?_⟩
      simp [isThrottled, Entries.get?_put_other _ _ different]
  next => exact ⟨_, rfl, fun _ _ => rfl⟩

theorem silence_of_not_canPause (throttles : Throttles) (unable : rule.canPause now = false) :
    ∃ fault, throttles.silence now rule = .error fault := by
  simp only [Rule.canPause, Bool.or_eq_false_iff, Bool.not_eq_false', decide_eq_true_eq] at unable
  obtain ⟨positive, outside⟩ := unable
  rw [silence, if_pos positive]
  cases spanned : rule.throttle with
  | error fault => exact ⟨fault, rfl⟩
  | ok span =>
    have beyond : inCalendar (now.wall + span) = false := by
      simpa [spanned, Except.toOption] using outside
    exact ⟨_, by simp only [Moment.add?, beyond, Bool.false_eq_true, if_false]; rfl⟩

/-- An evaluation that hands on what some rules say, up to the first that cannot pause. The alert of
this one is made, and is lost. -/
structure Reaches (ended : Evaluation Throttles) (now : Moment) (event : Event) (serial : Nat)
    (due : List Rule) : Prop where
  submissions : ended.submissions = Evaluation.numbered serial
    ((due.takeWhile (Rule.canPause now)).map (submissionOf now event))
  alerts : ended.alerts = ended.submissions.map Submission.alert
  failure : ended.failure = none ↔ ∀ rule ∈ due, rule.canPause now = true
  issued : ended.issued = ended.submissions.length + if ended.failure.isNone then 0 else 1

theorem evaluateRules_reaches (now : Moment) (fits : ∀ path n, event.Found path (.int n) -> Fits n)
    {rules : List Rule} (single : (rules.map Rule.ruleId).Nodup) (serial : Nat)
    (throttles : Throttles) :
    Reaches (evaluateRules now event serial throttles rules) now event serial
      (rules.filter (throttles.isDue now event)) := by
  induction rules generalizing serial throttles with
  | nil => exact ⟨rfl, rfl, by simp [evaluateRules, Evaluation.nothing], rfl⟩
  | cons rule rest ih =>
    obtain ⟨fresh, later⟩ := List.nodup_cons.mp single
    rw [evaluateRules, fires_eq fits]
    cases due : throttles.isDue now event rule with
    | false =>
      rw [List.filter_cons_of_neg (by simp [due])]
      exact ih later serial throttles
    | true =>
      rw [List.filter_cons_of_pos due]
      cases able : rule.canPause now with
      | false =>
        obtain ⟨fault, silenced⟩ := silence_of_not_canPause throttles able
        simp only [silenced]
        exact ⟨by simp [able, Evaluation.failed, Evaluation.numbered], rfl,
          by simp [able, Evaluation.failed], rfl⟩
      | true =>
        obtain ⟨silenced, done, others⟩ := silence_of_canPause throttles able
        -- Ids are distinct, so that the rules after this one are due as they were before.
        have same : rest.filter (silenced.isDue now event) =
            rest.filter (throttles.isDue now event) := by
          refine List.filter_congr fun other member => ?_
          have different : rule.ruleId ≠ other.ruleId := by
            intro clash
            exact fresh (clash ▸ List.mem_map_of_mem member)
          rw [isDue, isDue, others _ different]
        obtain ⟨submissions, alerts, failure, issued⟩ := ih later (serial + 1) silenced
        rw [same] at submissions failure
        simp only [done]
        refine ⟨?_, ?_, ?_, ?_⟩
        next =>
          rw [List.takeWhile_cons_of_pos able]
          exact congrArg (submissionOf now event rule serial :: ·) submissions
        next => exact congrArg (alertOf serial now event rule :: ·) alerts
        next =>
          rw [List.forall_mem_cons]
          exact failure.trans (and_iff_right able).symm
        next =>
          simp only [Evaluation.after, List.length_cons, issued]
          omega

theorem isThrottled_purge (single : Entries.Distinct throttles.silentUntil) (ruleId : String) :
    (throttles.purge now).isThrottled now ruleId = throttles.isThrottled now ruleId := by
  rw [isThrottled, isThrottled, purge, Entries.get?_filter single]
  cases Entries.get? throttles.silentUntil ruleId with
  | none => rfl
  | some silentUntil => cases within : decide (now.instant < silentUntil.instant) <;>
      simp [Option.filter, within]

end Evaluating

end Detection.Throttles

section Pausing

variable {rule : Rule} {now : Moment}

def longPause : Float := 4000000000

def overlongPause : Float := 4300000000

theorem valueOf_longPause : isFinite longPause = true ∧ valueOf longPause = 4000000000 := by
  have read : parts longPause = .finite false 8388608000000000 (-21) := by decide +kernel
  refine ⟨by rw [isFinite, read], ?_⟩
  rw [valueOf_of_parts read]
  norm_num

theorem valueOf_overlongPause :
    isFinite overlongPause = true ∧ valueOf overlongPause = 4300000000 := by
  have read : parts overlongPause = .finite false 4508876800000000 (-20) := by decide +kernel
  refine ⟨by rw [isFinite, read], ?_⟩
  rw [valueOf_of_parts read]
  norm_num

theorem throttle_of_finite (finite : isFinite rule.throttleMinutes = true)
    (nonneg : 0 <= rule.throttleMinutes) :
    ∃ span, rule.throttle = checkSpan span ∧ ⌊valueOf rule.throttleMinutes⌋ * minute <= span ∧
      span <= (⌊valueOf rule.throttleMinutes⌋ + 1) * minute := by
  rw [le_iff_valueOf (by decide +kernel) finite, valueOf_zero] at nonneg
  exact spanOf_of_nonneg (by decide) (by decide) finite nonneg

theorem canPause_of_short (century : now.IsInCentury) (nonneg : 0 <= rule.throttleMinutes)
    (short : rule.throttleMinutes <= longPause) : rule.canPause now = true := by
  obtain ⟨bounded, bound⟩ := valueOf_longPause
  have finite := isFinite_of_between (by decide +kernel) bounded nonneg short
  obtain ⟨span, spanned, lower, upper⟩ := throttle_of_finite finite nonneg
  rw [le_iff_valueOf finite bounded, bound] at short
  rw [le_iff_valueOf (by decide +kernel) finite, valueOf_zero] at nonneg
  have most : ⌊valueOf rule.throttleMinutes⌋ <= 4000000000 := by
    exact_mod_cast Int.floor_le_iff.mpr (short.trans_lt (by norm_num))
  have least : 0 <= ⌊valueOf rule.throttleMinutes⌋ := Int.floor_nonneg.mpr nonneg
  obtain ⟨since, til⟩ := century
  simp only [minute, second, Int.reduceMul] at lower upper since til
  have allowed : rule.throttle = .ok span := by
    rw [spanned]
    exact checkSpan_of_nonneg (by omega) ((by omega : span <= 240000060000000000).trans (by decide))
  have within : inCalendar (now.wall + span) = true := inCalendar_iff.mpr (by omega)
  simp [Rule.canPause, allowed, Except.toOption, within]

theorem not_canPause_of_long (century : now.IsInCentury) (nonneg : 0 <= rule.throttleMinutes)
    (long : overlongPause <= rule.throttleMinutes) : rule.canPause now = false := by
  obtain ⟨bounded, bound⟩ := valueOf_overlongPause
  have number := not_isUndefined_of_le long
  have positive : 0 < rule.throttleMinutes := by
    by_contra notAbove
    rcases eq_nought nonneg notAbove with nought | nought <;> rw [nought] at long <;>
      exact absurd long (by decide +kernel)
  suffices outside :
      (rule.throttle.toOption.any fun span => inCalendar (now.wall + span)) = false by
    simp [Rule.canPause, positive, outside]
  cases read : parts rule.throttleMinutes with
  | undefined => simp [isUndefined, read] at number
  | infinite negative =>
    -- There is no span of infinite length.
    have faulty : rule.throttle = .error .tooLarge := by
      simp [Rule.throttle, spanOf, splitAmount, Quantity.truncate, truncate?, read, number, bind,
        Except.bind]
    rw [faulty]
    rfl
  | finite negative mantissa exponent =>
    have finite : isFinite rule.throttleMinutes = true := by rw [isFinite, read]
    -- The span may be too long in itself; if it is not, it ends outside the calendar.
    obtain ⟨span, spanned, lower, upper⟩ := throttle_of_finite finite nonneg
    rw [le_iff_valueOf bounded finite, bound] at long
    have least : 4300000000 <= ⌊valueOf rule.throttleMinutes⌋ :=
      Int.le_floor.mpr (by exact_mod_cast long)
    obtain ⟨since, til⟩ := century
    simp only [minute, second, Int.reduceMul] at lower since
    have beyond : inCalendar (now.wall + span) = false := by
      refine Bool.eq_false_iff.mpr fun within => ?_
      rw [inCalendar_iff] at within
      omega
    rw [spanned, checkSpan]
    split <;> simp [Except.toOption, beyond]

end Pausing

namespace Detection.Throttles

/-- With the rules of a store, whatever calls have led to it, an event is evaluated to its end if
every rule that is due can pause. Otherwise the first that cannot is the last that is looked at, and
its alert is not handed on. Throttles of some thousand years and more are stored, and cannot
pause. -/
theorem evaluate_stored (calls : List RuleStore.Call) (throttles : Throttles)
    (single : Entries.Distinct throttles.silentUntil) {now : Moment} (century : now.IsInCentury)
    (serial : Nat) {event : Event} (fits : ∀ path n, event.Found path (.int n) -> Fits n) :
    let store := calls.foldl RuleStore.after .empty
    let due := store.toList.filter (throttles.isDue now event)
    let ended := throttles.evaluate now serial event (store.forEvent event)
    ended.submissions = Evaluation.numbered serial
      ((due.takeWhile (Rule.canPause now)).map (submissionOf now event)) ∧
    ended.alerts = ended.submissions.map Submission.alert ∧
    (ended.failure = none ↔ ∀ rule ∈ due, rule.canPause now = true) ∧
    ended.issued = ended.submissions.length + (if ended.failure.isNone then 0 else 1) ∧
    ∀ rule ∈ store.toList,
      (rule.throttleMinutes <= longPause -> rule.canPause now = true) ∧
      (overlongPause <= rule.throttleMinutes -> rule.canPause now = false) := by
  dsimp only
  have agrees := RuleStore.agrees_empty.run calls
  rw [List.nil_append] at agrees
  generalize calls.foldl RuleStore.after .empty = store at agrees
  have ids : (store.toList.map Rule.ruleId).Nodup := by
    rw [agrees.ownIds]
    exact agrees.single
  -- What the store leaves out for an event is not due anyway.
  have due : (store.forEvent event).filter ((throttles.purge now).isDue now event) =
      store.toList.filter (throttles.isDue now event) := by
    rw [RuleStore.forEvent, List.filter_filter]
    refine List.filter_congr fun rule _ => ?_
    rw [isDue, isDue, isThrottled_purge single]
    cases rule.enabled <;> cases rule.appliesTo event <;> simp
  have few : ((store.forEvent event).map Rule.ruleId).Nodup :=
    ids.sublist (List.filter_sublist.map _)
  obtain ⟨submissions, alerts, failure, issued⟩ :=
    evaluateRules_reaches now fits few serial (throttles.purge now)
  rw [due] at submissions failure
  refine ⟨submissions, alerts, failure, issued, fun rule member => ?_⟩
  obtain ⟨entry, stored, rfl⟩ := List.mem_map.mp member
  have nonneg := (agrees.kept_of_mem stored).throttle.1
  exact ⟨canPause_of_short century nonneg, not_canPause_of_long century nonneg⟩

def pausingFor (minutes : Float) : List RuleStore.Call :=
  [.add (universal 0) (.mapping [("rule_id", .text "first"), ("condition", .text "value > 5"),
      ("severity", .text "critical"), ("channels", .list [.text "webhook"]),
      ("throttle_minutes", .float minutes)]),
    .add (universal 1) (.mapping [("rule_id", .text "second"), ("condition", .text "value > 1"),
      ("severity", .text "info"), ("channels", .list [.text "email"])])]

theorem fits_reading {n : Int} (small : |n| < 2 ^ 53) {path : List String} {m : Int}
    (found : (Condition.reading (.int n)).Found path (.int m)) : Fits m := by
  have same := Condition.eq_of_found_reading (fun _ => rfl) rfl found
  exact Value.int.inj same ▸ fits_of_small small

def autumn : Moment := universal (1700000000 * second)

theorem evaluate_stored_hourly :
    let store := (pausingFor 60).foldl RuleStore.after .empty
    let event := Condition.reading (.int 7)
    let ended := Throttles.empty.evaluate autumn 0 event (store.forEvent event)
    autumn.IsInCentury ∧ Entries.Distinct Throttles.empty.silentUntil ∧
      (∀ path n, event.Found path (.int n) -> Fits n) ∧ ended.failure = none ∧
      ended.submissions.map (fun submission =>
        (submission.alert.ruleId, submission.channels.map Value.plainText)) =
          [("first", ["webhook"]), ("second", ["email"])] ∧
      ended.issued = 2 := by
  dsimp only
  have century : autumn.IsInCentury := ⟨by decide, by decide⟩
  have single : Entries.Distinct Throttles.empty.silentUntil := List.nodup_nil
  have fits : ∀ path n, (Condition.reading (.int 7)).Found path (.int n) -> Fits n :=
    fun _ _ => fits_reading (by decide)
  obtain ⟨submissions, -, failure, issued, -⟩ :=
    evaluate_stored (pausingFor 60) .empty single century 0 fits
  have done := failure.mpr (by decide +kernel)
  refine ⟨century, single, fits, done, by rw [submissions]; decide +kernel, ?_⟩
  rw [issued, done, submissions]
  decide +kernel

/-- A throttle that has no end in the calendar is stored, the alert of its rule is lost when it
fires, and the rule after it does not fire at all. -/
theorem pausing_tooLarge :
    let store := (pausingFor 1e300).foldl RuleStore.after .empty
    let event := Condition.reading (.int 7)
    let ended := Throttles.empty.evaluate autumn 0 event (store.forEvent event)
    store.ids = ["first", "second"] ∧ autumn.IsInCentury ∧
      (∀ path n, event.Found path (.int n) -> Fits n) ∧
      ended.failure = some (.number .tooLarge) ∧ ended.submissions.length = 0 ∧
      ended.issued = 1 ∧
      ((Throttles.empty.evaluate autumn 0 event ((store.forEvent event).drop 1)).submissions.map
        fun submission => submission.alert.ruleId) = ["second"] := by
  dsimp only
  exact ⟨by decide +kernel, ⟨by decide, by decide⟩, fun _ _ => fits_reading (by decide),
    by decide +kernel, by decide +kernel, by decide +kernel, by decide +kernel⟩

end Detection.Throttles

end SensorAlerting
