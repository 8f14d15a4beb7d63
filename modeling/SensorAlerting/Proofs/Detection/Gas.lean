import SensorAlerting.Proofs.Detection.Occupancy
import SensorAlerting.Proofs.Number.Comparing

set_option autoImplicit false

/-!
Alerts for gas in an occupied place. Whether a place is occupied is read off the last change that
was reported of it, long after the events that made it occupied have left the buffer. The first
guard asks whether the level is below the lower bound, which the undefined number never is.
-/

namespace SensorAlerting.Detection.CorrelationTracker

open SensorAlerting.Number SensorAlerting.Time

section Level

def statedLevel? (event : Event) : Option Quantity :=
  (event.lookup ["gas_concentration"]).quantity?.or (event.lookup ["value"]).quantity?

def IsAtLeast (bound : Int) : Quantity -> Prop
  | .whole number => bound <= number
  | .real x => Reaches bound x

/-- An integer that has a double, or any double but the undefined one. -/
def IsDefined : Quantity -> Prop
  | .whole number => Fits number
  | .real x => isUndefined x = false

theorem gasLevel_eq (event : Event) : gasLevel event =
    match statedLevel? event with
    | some level => level.toFloat.map some
    | none => .ok none := by
  rw [gasLevel, statedLevel?, Event.lookupNumber, Event.lookupNumber]
  cases (event.lookup ["gas_concentration"]).quantity? with
  | none => rfl
  | some level =>
    rw [Option.some_or]
    cases converted : level.toFloat <;> simp [converted, Except.map, bind, Except.bind, pure,
      Except.pure]

theorem toFloat_of_isDefined {level : Quantity} (isDefined : IsDefined level) :
    ∃ x, level.toFloat = .ok x ∧ isUndefined x = false ∧
      ∀ bound : Int, |bound| < 2 ^ 52 -> (Reaches bound x ↔ IsAtLeast bound level) := by
  cases level with
  | whole number =>
    obtain ⟨x, converted, finite, -⟩ := ofInt?_of_fits isDefined
    refine ⟨x, by simp [Quantity.toFloat, converted], ?_, fun bound small =>
      reaches_ofInt?_iff converted small⟩
    cases read : parts x <;> simp [isFinite, isUndefined, read] at finite ⊢
  | real x => exact ⟨x, rfl, isDefined, fun _ _ => Iff.rfl⟩

end Level

def alarmOf? (submission : Submission) : Option (Severity × List Value) :=
  if submission.alert.ruleId = "correlation_gas_with_occupancy" then
    some (submission.alert.severity, submission.channels)
  else none

def alarmsOf (evaluation : Evaluation CorrelationTracker) : List (Severity × List Value) :=
  evaluation.submissions.filterMap alarmOf?

def elevated : Severity × List Value := (.warning, [.text "email", .text "webhook"])

def high : Severity × List Value := (.critical, [.text "email", .text "sms", .text "webhook"])

section Alarm

def alarmIn? (found : Match) : Option (Severity × List Value) :=
  if found.correlationType = "gas_with_occupancy" then
    some (found.severity, found.channels.map .text)
  else none

theorem alarmOf?_submissionOf (arrival : Arrival) (found : Match) (serial : Nat) :
    alarmOf? (submissionOf arrival found serial) = alarmIn? found := by
  have whole : "correlation_gas_with_occupancy" = "correlation_" ++ "gas_with_occupancy" := by
    decide
  have named : "correlation_" ++ found.correlationType = "correlation_gas_with_occupancy" ↔
      found.correlationType = "gas_with_occupancy" := by
    rw [whole]
    exact String.append_right_inj _
  simp [alarmOf?, submissionOf, alertOf, alarmIn?, named]

theorem alarmIn?_eq_none {found? : Option Match}
    (other : found?.map Match.correlationType ≠ some "gas_with_occupancy") :
    found?.bind alarmIn? = none := by
  cases found? with
  | none => rfl
  | some found =>
    have away : found.correlationType ≠ "gas_with_occupancy" := by simpa using other
    simp [alarmIn?, away]

theorem alarms_of_findings {settings : CorrelationSettings} {event : Event}
    {recent : List BufferedEvent} {previous next : Bool} {found : List Match} {gas : Option Match}
    (matched : findings settings event recent previous = .ok (next, found))
    (smelled : gasWithOccupancy settings event previous = .ok gas) :
    found.filterMap alarmIn? = (gas.bind alarmIn?).toList := by
  obtain ⟨presence, same, shown, again, -, rfl⟩ := findings_cases matched
  obtain rfl := Except.ok.inj (again.symm.trans smelled)
  have noPresence : presence.bind alarmIn? = none := by
    refine alarmIn?_eq_none ?_
    rw [type_presenceWithMotion shown]
    exact presencePattern_other (by decide) (by decide)
  have noAnomaly : (multiSensorAnomaly event.location recent).bind alarmIn? = none := by
    refine alarmIn?_eq_none ?_
    rw [type_multiSensorAnomaly]
    exact anomalyPattern_other (by decide)
  have noChange : (occupancyChange previous next).bind alarmIn? = none := by
    refine alarmIn?_eq_none ?_
    rw [type_occupancyChange]
    split <;> simp
  rw [List.filterMap_filterMap]
  simp only [id, List.filterMap_cons, noPresence, noAnomaly, noChange, List.filterMap_nil]
  cases same.bind alarmIn? <;> rfl

theorem Passage.alarms {tracker : CorrelationTracker} {arrival : Arrival} {serial : Nat}
    {gas : Option Match} (passage : tracker.Passage arrival serial)
    (smelled : gasWithOccupancy tracker.settings arrival.event
      (tracker.isOccupied arrival.event.location) = .ok gas) :
    alarmsOf (tracker.perform (.process arrival serial)) = (gas.bind alarmIn?).toList := by
  rw [alarmsOf, passage.submissions, submissionsOf,
    Evaluation.numbered_filterMap (alarmOf?_submissionOf arrival),
    alarms_of_findings passage.matched smelled]

end Alarm

structure Usable (settings : CorrelationSettings) : Prop where
  bounded : ∃ bound, settings.bufferSize.asBound = .ok bound
  spanned : ∃ horizon, checkSpan (settings.window * 2) = .ok horizon

theorem usable_of_passed {tracker : CorrelationTracker} {arrival : Arrival} {serial : Nat}
    (passed : (tracker.perform (.process arrival serial)).failure = none) :
    Usable tracker.settings := by
  simp only [perform, process, settings_openBuffer, settings_record] at passed
  split at passed
  next => cases passed
  next bound bounded =>
    split at passed
    next => cases passed
    next =>
      split at passed
      next => cases passed
      next horizon spanned => exact ⟨⟨bound, bounded⟩, ⟨horizon, spanned⟩⟩

def OccupiedByUse (tracker : CorrelationTracker) : Prop :=
  ∀ location, tracker.isOccupied location = true -> Usable tracker.settings

theorem OccupiedByUse.after {tracker : CorrelationTracker} (byUse : tracker.OccupiedByUse)
    (call : Call) : (tracker.after call).OccupiedByUse := by
  intro location occupied
  rw [settings_after]
  cases call with
  | process arrival serial =>
    by_cases passed : (tracker.perform (.process arrival serial)).failure = none
    next => exact usable_of_passed passed
    next =>
      refine byUse location ?_
      rwa [<- (stuck_of_failed passed).isOccupied location]
  | clear named =>
    have flagged : (tracker.after (.clear named)).isOccupied location = _ :=
      tracker.isOccupied_clear named location
    rw [flagged] at occupied
    split at occupied
    next => cases occupied
    next => exact byUse location occupied
  | clearAll => cases occupied

theorem OccupiedByUse.run {tracker : CorrelationTracker} (byUse : tracker.OccupiedByUse)
    (calls : List Call) : (tracker.run calls).OccupiedByUse := by
  induction calls generalizing tracker with
  | nil => exact byUse
  | cons call rest ih => exact ih (byUse.after call)

def usual (window : Int) (stationaryMinEvents bufferSize : Value) : CorrelationSettings :=
  { CorrelationSettings.default with window, stationaryMinEvents, bufferSize }

theorem gasWithOccupancy_vacant (settings : CorrelationSettings) (event : Event) :
    gasWithOccupancy settings event false = .ok none := by
  rw [gasWithOccupancy, Bool.and_false]
  rfl

def matchAt? (x : Float) : Option Match :=
  if Quantity.isBelow (.real x) (.whole 300) then none
  else if Quantity.isAtMost (.whole 500) (.real x) then
    some (gasMatch .critical "High" ["email", "sms", "webhook"] x)
  else some (gasMatch .warning "Elevated" ["email", "webhook"] x)

theorem alarm_undefined {x : Float} (undefined : isUndefined x = true) :
    (matchAt? x).bind alarmIn? = some elevated := by
  have above : Quantity.isBelow (.real x) (.whole 300) = false :=
    Quantity.isBelow_whole_iff.mpr (.inr undefined)
  have notHigh : ¬ Quantity.isAtMost (.whole 500) (.real x) = true := fun atMost =>
    not_reaches_of_undefined undefined (Quantity.isAtMost_whole_iff.mp atMost)
  rw [matchAt?, if_neg (by simp [above]), if_neg notHigh]
  rfl

theorem alarm_high {x : Float} (reaches : Reaches (500 : Int) x) :
    (matchAt? x).bind alarmIn? = some high := by
  have above : Quantity.isBelow (.real x) (.whole 300) = false :=
    Quantity.isBelow_whole_iff.mpr (.inl (reaches.mono (by norm_num)))
  rw [matchAt?, if_neg (by simp [above]), if_pos (Quantity.isAtMost_whole_iff.mpr reaches)]
  rfl

theorem alarm_elevated {x : Float} (reaches : Reaches (300 : Int) x)
    (notHigh : ¬ Reaches (500 : Int) x) : (matchAt? x).bind alarmIn? = some elevated := by
  have above : Quantity.isBelow (.real x) (.whole 300) = false :=
    Quantity.isBelow_whole_iff.mpr (.inl reaches)
  rw [matchAt?, if_neg (by simp [above]), if_neg (mt Quantity.isAtMost_whole_iff.mp notHigh)]
  rfl

theorem alarm_none {x : Float} (isDefined : isUndefined x = false)
    (below : ¬ Reaches (300 : Int) x) : (matchAt? x).bind alarmIn? = none := by
  have under : Quantity.isBelow (.real x) (.whole 300) = true := by
    refine eq_true_of_ne_false fun above => ?_
    rcases Quantity.isBelow_whole_iff.mp above with reaches | undefined
    next => exact below reaches
    next => exact absurd undefined (by simp [isDefined])
  rw [matchAt?, if_pos under]
  rfl

theorem alarm_by_level {level : Quantity} {x : Float} (isDefined : isUndefined x = false)
    (reaches : ∀ bound : Int, |bound| < 2 ^ 52 -> (Reaches bound x ↔ IsAtLeast bound level)) :
    let heard := ((matchAt? x).bind alarmIn?).toList
    (heard = [high] ↔ IsAtLeast 500 level) ∧
    (heard = [elevated] ↔ IsAtLeast 300 level ∧ ¬ IsAtLeast 500 level) ∧
    (heard = [] ↔ ¬ IsAtLeast 300 level) := by
  intro heard
  have distinct : high ≠ elevated := by simp [high, elevated]
  by_cases critical : IsAtLeast 500 level
  next =>
    have atLeast := (reaches 500 (by norm_num)).mpr critical
    have warning := (reaches 300 (by norm_num)).mp (atLeast.mono (by norm_num))
    simp [heard, alarm_high atLeast, distinct, critical, warning]
  next =>
    have notHigh := mt (reaches 500 (by norm_num)).mp critical
    by_cases warning : IsAtLeast 300 level
    next =>
      have atLeast := (reaches 300 (by norm_num)).mpr warning
      simp [heard, alarm_elevated atLeast notHigh, distinct.symm, critical, warning]
    next =>
      have below := mt (reaches 300 (by norm_num)).mp warning
      simp [heard, alarm_none isDefined below, critical, warning]

section Gas

variable {window : Int} {stationaryMinEvents bufferSize : Value} {arrival : Arrival}
  (gas : arrival.event.sensorType ∈ CorrelationSettings.default.gasTypes)

include gas

theorem not_presence_of_gas :
    (usual window stationaryMinEvents bufferSize).presenceTypes.contains
      arrival.event.sensorType = false := by
  change CorrelationSettings.default.presenceTypes.contains _ = false
  rcases List.mem_pair.mp gas with named | named <;> rw [named] <;> decide

theorem not_motion_of_gas :
    (usual window stationaryMinEvents bufferSize).motionTypes.contains
      arrival.event.sensorType = false := by
  change CorrelationSettings.default.motionTypes.contains _ = false
  rcases List.mem_pair.mp gas with named | named <;> rw [named] <;> decide

theorem entryOf_gas : ∃ entry, entryOf (usual window stationaryMinEvents bufferSize)
    arrival.now arrival.event arrival.related = .ok entry := by
  simp only [entryOf, isPresencePositive, isMotionPositive, not_presence_of_gas gas,
    not_motion_of_gas gas, Bool.false_eq_true, if_false, bind, Except.bind]
  exact ⟨_, rfl⟩

theorem findings_gas (recent : List BufferedEvent) (previous : Bool) :
    findings (usual window stationaryMinEvents bufferSize) arrival.event recent previous =
      (gasWithOccupancy (usual window stationaryMinEvents bufferSize) arrival.event previous).map
        fun found? => (previous, [none, found?, multiSensorAnomaly arrival.event.location recent,
          none].filterMap id) := by
  have settled : occupancyAfter (usual window stationaryMinEvents bufferSize) arrival.event
      previous = .ok previous := by
    simp only [occupancyAfter, isMotionPositive, not_presence_of_gas gas, not_motion_of_gas gas,
      Bool.false_eq_true, if_false, bind, Except.bind]
    rfl
  simp only [findings, presenceWithMotion, settled, not_presence_of_gas gas,
    not_motion_of_gas gas, Bool.or_self, Bool.false_eq_true, if_false]
  cases gasWithOccupancy (usual window stationaryMinEvents bufferSize) arrival.event previous with
  | error misuse => rfl
  | ok found? =>
    have same : occupancyChange previous previous = none := by simp [occupancyChange]
    simp only [bind, Except.bind, pure, Except.pure, mapError_ok, Except.map, same]

theorem gasWithOccupancy_occupied :
    gasWithOccupancy (usual window stationaryMinEvents bufferSize) arrival.event true =
      match statedLevel? arrival.event with
      | some level => (level.toFloat.mapError .ofFault).map matchAt?
      | none => .ok none := by
  have listed : (usual window stationaryMinEvents bufferSize).gasTypes.contains
      arrival.event.sensorType = true := List.contains_iff_mem.mpr gas
  rw [gasWithOccupancy, listed, gasLevel_eq]
  cases statedLevel? arrival.event with
  | none => rfl
  | some level =>
    cases converted : level.toFloat with
    | error fault => simp [converted, Except.map, bind, Except.bind]
    | ok x =>
      have warning : (usual window stationaryMinEvents bufferSize).gasWarningLevel.asQuantity =
        .ok (.whole 300) := rfl
      have critical : (usual window stationaryMinEvents bufferSize).gasCriticalLevel.asQuantity =
        .ok (.whole 500) := rfl
      simp only [converted, Except.map, matchAt?, mapError_ok, bind, Except.bind, warning, critical,
        Bool.and_self, if_true]
      split_ifs <;> rfl

theorem perform_gas {tracker : CorrelationTracker}
    (same : tracker.settings = usual window stationaryMinEvents bufferSize)
    (usable : Usable tracker.settings) (serial : Nat) :
    let evaluation := tracker.perform (.process arrival serial)
    match gasWithOccupancy (usual window stationaryMinEvents bufferSize) arrival.event
      (tracker.isOccupied arrival.event.location) with
    | .error misuse => evaluation.failure = some (.misuse misuse) ∧ alarmsOf evaluation = []
    | .ok found? =>
      evaluation.failure = none ∧ alarmsOf evaluation = (found?.bind alarmIn?).toList := by
  intro evaluation
  obtain ⟨⟨bound, bounded⟩, ⟨horizon, spanned⟩⟩ := usable
  obtain ⟨entry, entered⟩ : ∃ entry, entryOf tracker.settings arrival.now arrival.event
      arrival.related = .ok entry := same ▸ entryOf_gas gas
  have evaluated : evaluation = _ := perform_eq_evaluate bounded entered spanned serial
  rw [evaluate, settings_buffered, isOccupied_buffered, same, findings_gas gas] at evaluated
  cases smelled : gasWithOccupancy (usual window stationaryMinEvents bufferSize) arrival.event
      (tracker.isOccupied arrival.event.location) with
  | error misuse =>
    rw [smelled] at evaluated
    rw [evaluated]
    exact ⟨rfl, rfl⟩
  | ok found? =>
    rw [smelled] at evaluated
    have passed : evaluation.failure = none := congrArg Evaluation.failure evaluated
    obtain ⟨passage⟩ := passage_of_passed passed
    exact ⟨passed, passage.alarms (same ▸ smelled)⟩

end Gas

theorem alarmsOf_vacant {tracker : CorrelationTracker} {arrival : Arrival}
    (vacant : tracker.isOccupied arrival.event.location = false) (serial : Nat) :
    alarmsOf (tracker.perform (.process arrival serial)) = [] := by
  by_cases passed : (tracker.perform (.process arrival serial)).failure = none
  next =>
    obtain ⟨passage⟩ := passage_of_passed passed
    have smelled : gasWithOccupancy tracker.settings arrival.event
        (tracker.isOccupied arrival.event.location) = .ok none := by
      rw [vacant, gasWithOccupancy_vacant]
    exact passage.alarms smelled
  next => rw [alarmsOf, (stuck_of_failed passed).submissions, List.filterMap_nil]

theorem perform_gas_occupied {window : Int} {stationaryMinEvents bufferSize : Value}
    {tracker : CorrelationTracker} {arrival : Arrival}
    (gas : arrival.event.sensorType ∈ CorrelationSettings.default.gasTypes)
    (same : tracker.settings = usual window stationaryMinEvents bufferSize)
    (usable : Usable tracker.settings)
    (occupied : tracker.isOccupied arrival.event.location = true) (serial : Nat) :
    let evaluation := tracker.perform (.process arrival serial)
    match statedLevel? arrival.event with
    | none => evaluation.failure = none ∧ alarmsOf evaluation = []
    | some level =>
      match level.toFloat with
      | .error fault =>
        evaluation.failure = some (.misuse (.ofFault fault)) ∧ alarmsOf evaluation = []
      | .ok x =>
        evaluation.failure = none ∧
          alarmsOf evaluation = ((matchAt? x).bind alarmIn?).toList := by
  have performed := perform_gas gas same usable serial
  rw [occupied, gasWithOccupancy_occupied gas] at performed
  cases stated : statedLevel? arrival.event with
  | none =>
    rw [stated] at performed
    exact performed
  | some level =>
    cases converted : level.toFloat <;>
      simpa only [stated, converted, mapError_error, mapError_ok, Except.map] using performed

/-- Alerts for gas follow the level and the last change of occupancy, as long as a level that is
compared is defined. An undefined level in an occupied place raises a warning, and an integer
without a double stops the evaluation. One that is not stopped returns what it hands on. -/
theorem gas_alerts_by_level (window : Int) (stationaryMinEvents bufferSize : Value)
    (calls : List Call) {arrival : Arrival} (serial : Nat)
    (gas : arrival.event.sensorType ∈ CorrelationSettings.default.gasTypes) :
    let tracker := start (usual window stationaryMinEvents bufferSize)
    let occupied := (changesOf arrival.event.location tracker [] calls).getLast? =
      some (changeTo true)
    let stated := statedLevel? arrival.event
    let evaluation := (tracker.run calls).perform (.process arrival serial)
    let alarms := alarmsOf evaluation
    ((occupied -> ∀ level ∈ stated, IsDefined level) ->
      (occupied -> evaluation.failure = none) ∧
      (alarms = [high] ↔ occupied ∧ ∃ level ∈ stated, IsAtLeast 500 level) ∧
      (alarms = [elevated] ↔ occupied ∧ ∃ level ∈ stated, IsAtLeast 300 level ∧
        ¬ IsAtLeast 500 level) ∧
      (alarms = [] ↔ ¬ (occupied ∧ ∃ level ∈ stated, IsAtLeast 300 level))) ∧
    (occupied -> ∀ x, stated = some (.real x) -> isUndefined x = true ->
      evaluation.failure = none ∧ alarms = [elevated]) ∧
    (occupied -> ∀ number, stated = some (.whole number) -> ¬ Fits number ->
      evaluation.failure = some (.misuse .tooLarge) ∧ alarms = []) ∧
    (evaluation.failure = none ->
      evaluation.alerts = evaluation.submissions.map Submission.alert) := by
  intro tracker occupied stated evaluation alarms
  have told : Told arrival.event.location (tracker.run calls)
      (changesOf arrival.event.location tracker [] calls) := (Told.forgotten rfl).run calls
  have flagged : (tracker.run calls).isOccupied arrival.event.location = true ↔ occupied :=
    told.isOccupied_iff
  by_cases busy : occupied
  next =>
    have same := settings_run tracker calls
    have unused : tracker.OccupiedByUse := fun location lit => by cases lit
    have usable := unused.run calls arrival.event.location (flagged.mpr busy)
    have performed := perform_gas_occupied gas same usable (flagged.mpr busy) serial
    refine ⟨fun allDefined => ?_, fun _ x given undefined => ?_, fun _ number given beyond => ?_,
      alerts_of_passed⟩
    · cases given : stated with
      | none =>
        simp only [show statedLevel? arrival.event = none from given] at performed
        obtain ⟨passed, none⟩ := performed
        have silent : alarms = [] := none
        refine ⟨fun _ => passed, ?_, ?_, ?_⟩ <;> simp [silent]
      | some level =>
        obtain ⟨x, converted, isDefined, reaches⟩ :=
          toFloat_of_isDefined (allDefined busy level given)
        simp only [show statedLevel? arrival.event = some level from given, converted] at performed
        obtain ⟨passed, heard⟩ := performed
        have raised : alarms = ((matchAt? x).bind alarmIn?).toList := heard
        obtain ⟨isHigh, isElevated, isNone⟩ := alarm_by_level isDefined reaches
        refine ⟨fun _ => passed, ?_, ?_, ?_⟩ <;> simp [raised, isHigh, isElevated, isNone, busy]
    · simp only [show statedLevel? arrival.event = some (.real x) from given, Quantity.toFloat,
        alarm_undefined undefined] at performed
      exact performed
    · simp only [show statedLevel? arrival.event = some (.whole number) from given,
        Quantity.toFloat, ofInt?_of_not_fits beyond] at performed
      exact performed
  next =>
    have silent : alarms = [] :=
      alarmsOf_vacant (eq_false_of_ne_true (mt flagged.mp busy)) serial
    refine ⟨fun _ => ⟨?_, ?_, ?_, ?_⟩, ?_, ?_, alerts_of_passed⟩ <;> simp [silent, busy]

def smelled (level : Value) : Arrival :=
  { now := universal (90 * minute)
    event := { report "mq134" "lab" 0 with readings := [("gas_concentration", level)] }
    related := [] }

/-- Somebody came into the lab an hour and a half ago, and its buffer has been purged since. -/
theorem gas_alerts_by_level_lab :
    let calls := [reported 0 (report "ld2410" "lab" 1), reported 80 (report "ld2410" "hall" 0)]
    let settings := usual (60 * second) (.int 5) (.int 100)
    (smelled (.int 500)).event.sensorType ∈ CorrelationSettings.default.gasTypes ∧
      ((start settings).run calls).bufferOf "lab" = [] ∧
      alarmsOf (((start settings).run calls).perform (.process (smelled (.int 500)) 0)) =
        [high] := by
  intro calls settings
  have gas : (smelled (.int 500)).event.sensorType ∈ CorrelationSettings.default.gasTypes := by
    decide
  have told : Told "lab" ((start settings).run calls) (changesOf "lab" (start settings) [] calls) :=
    (Told.forgotten rfl).run calls
  have occupied := told.isOccupied_iff.mp (by decide +kernel)
  have stated : statedLevel? (smelled (.int 500)).event = some (.whole 500) := rfl
  have isDefined : ∀ level ∈ statedLevel? (smelled (.int 500)).event, IsDefined level := by
    intro level member
    obtain rfl := Option.some.inj (stated.symm.trans member)
    exact fits_of_small (by norm_num)
  have alerts := (gas_alerts_by_level (60 * second) (.int 5) (.int 100) calls 0 gas).1
  exact ⟨gas, by decide +kernel,
    (alerts fun _ => isDefined).2.1.mpr ⟨occupied, _, stated, le_rfl⟩⟩

/-- An undefined level, which is not at least anything, raises a warning. -/
theorem gas_alert_for_undefined :
    let occupied := (start .default).after (reported 0 (report "ld2410" "lab" 1))
    let event := smelled (.float undefinedFloat)
    occupied.isOccupied "lab" = true ∧
      statedLevel? event.event = some (.real undefinedFloat) ∧
      ¬ IsAtLeast 300 (.real undefinedFloat) ∧
      alarmsOf (occupied.perform (.process event 1)) = [elevated] := by
  intro occupied event
  have undefined : isUndefined undefinedFloat = true := by decide +kernel
  have lit : occupied.isOccupied "lab" = true := by decide +kernel
  have same : occupied.settings = usual (60 * second) (.int 5) (.int 100) := settings_after _ _
  have usable : Usable occupied.settings := same ▸ ⟨⟨some 100, rfl⟩, ⟨120 * second, rfl⟩⟩
  have gas : event.event.sensorType ∈ CorrelationSettings.default.gasTypes := by decide
  obtain ⟨-, alarms⟩ := perform_gas_occupied gas same usable lit 1
  rw [alarm_undefined undefined] at alarms
  exact ⟨lit, rfl, not_reaches_of_undefined undefined, alarms⟩

end SensorAlerting.Detection.CorrelationTracker
