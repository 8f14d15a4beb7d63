import SensorAlerting.Detection.Correlation
import SensorAlerting.Proofs.Detection.Outcomes
import SensorAlerting.Proofs.Entries
import SensorAlerting.Proofs.Time.Spans

set_option autoImplicit false

namespace SensorAlerting.Detection.CorrelationTracker

open SensorAlerting.Number SensorAlerting.Time

structure Arrival where
  now : Moment
  event : Event
  related : List Alert

inductive Call where
  | process (arrival : Arrival) (serial : Nat)
  | clear (location : String)
  | clearAll

def Call.time? : Call -> Option Int
  | .process arrival _ => some arrival.now.instant
  | _ => none

def Call.isAbout (location : String) : Call -> Bool
  | .process arrival _ => arrival.event.location == location
  | .clear named => named == location
  | .clearAll => true

def perform (tracker : CorrelationTracker) : Call -> Evaluation CorrelationTracker
  | .process arrival serial => tracker.process arrival.now serial arrival.event arrival.related
  | .clear location => .nothing (tracker.clear location)
  | .clearAll => .nothing tracker.clearAll

def after (tracker : CorrelationTracker) (call : Call) : CorrelationTracker :=
  (tracker.perform call).state

def run (tracker : CorrelationTracker) (calls : List Call) : CorrelationTracker :=
  calls.foldl after tracker

theorem run_concat (tracker : CorrelationTracker) (calls : List Call) (call : Call) :
    tracker.run (calls ++ [call]) = (tracker.run calls).after call := by
  rw [run, List.foldl_append]
  rfl

def Unfailing (tracker : CorrelationTracker) : List Call -> Prop
  | [] => True
  | call :: rest => (tracker.perform call).failure = none ∧ (tracker.after call).Unfailing rest

instance decidableUnfailing (tracker : CorrelationTracker) :
    (calls : List Call) -> Decidable (tracker.Unfailing calls)
  | [] => inferInstanceAs (Decidable True)
  | call :: rest =>
    have := decidableUnfailing (tracker.after call) rest
    inferInstanceAs (Decidable (_ ∧ _))

theorem Unfailing.append {tracker : CorrelationTracker} {before after : List Call}
    (unfailing : tracker.Unfailing (before ++ after)) :
    tracker.Unfailing before ∧ (tracker.run before).Unfailing after := by
  induction before generalizing tracker with
  | nil => exact ⟨trivial, unfailing⟩
  | cons call rest ih =>
    obtain ⟨passed, later⟩ := unfailing
    obtain ⟨early, late⟩ := ih later
    exact ⟨⟨passed, early⟩, late⟩

def logAfter (location : String) (log : List Arrival) (call : Call) : List Arrival :=
  if call.isAbout location then
    match call with
    | .process arrival _ => log ++ [arrival]
    | _ => []
  else log

theorem logAfter_process (location : String) (log : List Arrival) (arrival : Arrival)
    (serial : Nat) : logAfter location log (.process arrival serial) =
      if arrival.event.location = location then log ++ [arrival] else log := by
  simp [logAfter, Call.isAbout]

theorem logAfter_clear (location : String) (log : List Arrival) (named : String) :
    logAfter location log (.clear named) = if named = location then [] else log := by
  simp [logAfter, Call.isAbout]

def logOf (location : String) (calls : List Call) : List Arrival :=
  calls.foldl (logAfter location) []

def buffered (tracker : CorrelationTracker) (bound : Bound) (arrival : Arrival)
    (entry : BufferedEvent) : CorrelationTracker :=
  ((tracker.openBuffer arrival.event.location).record bound arrival.event.location entry).purge
    arrival.now (tracker.settings.window * 2)

def submissionOf (arrival : Arrival) (found : Match) (serial : Nat) : Submission :=
  { alert := alertOf arrival.now arrival.event found serial
    channels := found.channels.map .text }

def submissionsOf (arrival : Arrival) (serial : Nat) (found : List Match) : List Submission :=
  Evaluation.numbered serial (found.map (submissionOf arrival))

structure Passage (tracker : CorrelationTracker) (arrival : Arrival) (serial : Nat) where
  bound : Bound
  entry : BufferedEvent
  next : Bool
  found : List Match
  bounded : tracker.settings.bufferSize.asBound = .ok bound
  entered : entryOf tracker.settings arrival.now arrival.event arrival.related = .ok entry
  matched : findings tracker.settings arrival.event
    ((tracker.buffered bound arrival entry).recent arrival.event.location arrival.now)
    (tracker.isOccupied arrival.event.location) = .ok (next, found)
  state : tracker.after (.process arrival serial) =
    { tracker.buffered bound arrival entry with
      occupancy := Entries.put tracker.occupancy arrival.event.location next }
  submissions : (tracker.perform (.process arrival serial)).submissions =
    submissionsOf arrival serial found

section Frame

variable (tracker : CorrelationTracker)

@[simp]
theorem settings_openBuffer (location : String) :
    (tracker.openBuffer location).settings = tracker.settings := rfl

@[simp]
theorem settings_record (bound : Bound) (location : String) (entry : BufferedEvent) :
    (tracker.record bound location entry).settings = tracker.settings := rfl

@[simp]
theorem settings_buffered (bound : Bound) (arrival : Arrival) (entry : BufferedEvent) :
    (tracker.buffered bound arrival entry).settings = tracker.settings := rfl

@[simp]
theorem isOccupied_buffered (bound : Bound) (arrival : Arrival) (entry : BufferedEvent)
    (location : String) :
    (tracker.buffered bound arrival entry).isOccupied location = tracker.isOccupied location := rfl

end Frame

theorem perform_eq_evaluate {tracker : CorrelationTracker} {arrival : Arrival} {bound : Bound}
    {entry : BufferedEvent} {horizon : Int}
    (bounded : tracker.settings.bufferSize.asBound = .ok bound)
    (entered : entryOf tracker.settings arrival.now arrival.event arrival.related = .ok entry)
    (spanned : checkSpan (tracker.settings.window * 2) = .ok horizon) (serial : Nat) :
    tracker.perform (.process arrival serial) =
      (tracker.buffered bound arrival entry).evaluate arrival.now serial arrival.event := by
  obtain ⟨-, -, rfl⟩ := checkSpan_eq_ok.mp spanned
  simp only [perform, process, bounded, settings_openBuffer, entered, settings_record, spanned]
  rfl

theorem passage_of_passed {tracker : CorrelationTracker} {arrival : Arrival} {serial : Nat}
    (passed : (tracker.perform (.process arrival serial)).failure = none) :
    Nonempty (tracker.Passage arrival serial) := by
  -- Every way to fail leaves a failure behind, so that only the way through all checks remains.
  have unfolded := passed
  simp only [perform, process, settings_openBuffer, settings_record] at unfolded
  split at unfolded
  next => cases unfolded
  next bound bounded =>
    split at unfolded
    next => cases unfolded
    next entry entered =>
      split at unfolded
      next => cases unfolded
      next horizon spanned =>
        have evaluated := perform_eq_evaluate bounded entered spanned serial
        simp only [evaluate, settings_buffered, isOccupied_buffered] at evaluated
        cases matched : findings tracker.settings arrival.event
            ((tracker.buffered bound arrival entry).recent arrival.event.location arrival.now)
            (tracker.isOccupied arrival.event.location) with
        | error misuse =>
          rw [evaluated, matched] at passed
          cases passed
        | ok found =>
          rw [matched] at evaluated
          exact ⟨{ bound, entry, next := found.1, found := found.2, bounded, entered, matched
                   state := congrArg Evaluation.state evaluated
                   submissions := congrArg Evaluation.submissions evaluated }⟩

/-- An evaluation that fails has handed nothing on, and has left settings and occupancy alone. -/
structure Stuck (tracker : CorrelationTracker) (evaluation : Evaluation CorrelationTracker) :
    Prop where
  settings : evaluation.state.settings = tracker.settings
  occupancy : evaluation.state.occupancy = tracker.occupancy
  submissions : evaluation.submissions = []

theorem Stuck.isOccupied {tracker : CorrelationTracker} {evaluation : Evaluation CorrelationTracker}
    (stuck : tracker.Stuck evaluation) (location : String) :
    evaluation.state.isOccupied location = tracker.isOccupied location := by
  rw [CorrelationTracker.isOccupied, stuck.occupancy]
  rfl

theorem stuck_of_failed {tracker : CorrelationTracker} {arrival : Arrival} {serial : Nat}
    (failed : (tracker.perform (.process arrival serial)).failure ≠ none) :
    tracker.Stuck (tracker.perform (.process arrival serial)) := by
  cases bounded : tracker.settings.bufferSize.asBound with
  | error misuse =>
    simp only [perform, process, bounded]
    exact ⟨rfl, rfl, rfl⟩
  | ok bound =>
    cases entered : entryOf tracker.settings arrival.now arrival.event arrival.related with
    | error fault =>
      simp only [perform, process, settings_openBuffer, bounded, entered]
      exact ⟨rfl, rfl, rfl⟩
    | ok entry =>
      cases spanned : checkSpan (tracker.settings.window * 2) with
      | error fault =>
        simp only [perform, process, settings_openBuffer, settings_record, bounded, entered,
          spanned]
        exact ⟨rfl, rfl, rfl⟩
      | ok horizon =>
        rw [perform_eq_evaluate bounded entered spanned, evaluate] at failed ⊢
        split at failed
        next => exact ⟨rfl, rfl, rfl⟩
        next => exact absurd rfl failed

theorem outcome_congr {tracker other : CorrelationTracker} {arrival : Arrival}
    (sameSettings : tracker.settings = other.settings)
    (sameRecent : ∀ bound entry, tracker.settings.bufferSize.asBound = .ok bound ->
      entryOf tracker.settings arrival.now arrival.event arrival.related = .ok entry ->
      (tracker.buffered bound arrival entry).recent arrival.event.location arrival.now =
        (other.buffered bound arrival entry).recent arrival.event.location arrival.now)
    (sameOccupied : tracker.isOccupied arrival.event.location =
      other.isOccupied arrival.event.location) (serial : Nat) :
    (tracker.perform (.process arrival serial)).outcome =
      (other.perform (.process arrival serial)).outcome := by
  -- Up to the buffers both fail alike, by their settings; what is found goes by what is recent.
  rw [sameSettings] at sameRecent
  cases bounded : other.settings.bufferSize.asBound with
  | error misuse => simp only [perform, process, sameSettings, bounded, Evaluation.outcome_failed]
  | ok bound =>
    cases entered : entryOf other.settings arrival.now arrival.event arrival.related with
    | error fault =>
      simp only [perform, process, settings_openBuffer, sameSettings, bounded, entered,
        Evaluation.outcome_failed]
    | ok entry =>
      cases spanned : checkSpan (other.settings.window * 2) with
      | error fault =>
        simp only [perform, process, settings_openBuffer, settings_record, sameSettings, bounded,
          entered, spanned, Evaluation.outcome_failed]
      | ok horizon =>
        have evaluated := perform_eq_evaluate (sameSettings ▸ bounded) (sameSettings ▸ entered)
          (sameSettings ▸ spanned) serial
        rw [evaluated, perform_eq_evaluate bounded entered spanned]
        simp only [evaluate, settings_buffered, isOccupied_buffered,
          sameRecent bound entry bounded entered, sameOccupied, sameSettings]
        split <;> rfl

theorem findings_cases {settings : CorrelationSettings} {event : Event}
    {recent : List BufferedEvent} {previous next : Bool} {found : List Match}
    (matched : findings settings event recent previous = .ok (next, found)) :
    ∃ presence gas, presenceWithMotion settings event recent = .ok presence ∧
      gasWithOccupancy settings event previous = .ok gas ∧
      occupancyAfter settings event previous = .ok next ∧
      found = [presence, gas, multiSensorAnomaly event.location recent,
        occupancyChange previous next].filterMap id := by
  unfold findings at matched
  cases shown : presenceWithMotion settings event recent with
  | error misuse => simp [shown, bind, Except.bind] at matched
  | ok presence =>
    cases smelled : gasWithOccupancy settings event previous with
    | error misuse => simp [shown, smelled, bind, Except.bind] at matched
    | ok gas =>
      cases settled : occupancyAfter settings event previous with
      | error fault =>
        simp [shown, smelled, settled, bind, Except.bind] at matched
      | ok flag =>
        simp only [shown, smelled, settled, bind, Except.bind, mapError_ok, Except.ok.injEq,
          Prod.mk.injEq] at matched
        obtain ⟨rfl, rfl⟩ := matched
        exact ⟨presence, gas, rfl, rfl, rfl, rfl⟩

def exceeds (count : Nat) (stated : Value) : Bool :=
  match stated.asQuantity with
  | .ok least => least.isBelow (.whole count)
  | .error _ => false

/-- The pattern of presence: for an event that tells of it, where somebody is present, the one of
motion, or else the one of a busy window. -/
def presencePattern (tells present moving busy : Bool) : Option String :=
  if tells && present then
    if moving then some "confirmed_occupancy"
    else if busy then some "stationary_presence"
    else none
  else none

def anomalyPattern (severalTypes severalAnomalous : Bool) : Option String :=
  if severalTypes && severalAnomalous then some "multi_sensor_anomaly" else none

section Pattern

variable {tells present moving busy severalTypes severalAnomalous : Bool} {pattern : String}

theorem presencePattern_confirmed :
    presencePattern tells present moving busy = some "confirmed_occupancy" ↔
      tells = true ∧ present = true ∧ moving = true := by
  cases tells <;> cases present <;> cases moving <;> cases busy <;> decide

theorem presencePattern_stationary :
    presencePattern tells present moving busy = some "stationary_presence" ↔
      tells = true ∧ present = true ∧ ¬ moving = true ∧ busy = true := by
  cases tells <;> cases present <;> cases moving <;> cases busy <;> decide

theorem presencePattern_other (notConfirmed : pattern ≠ "confirmed_occupancy")
    (notStationary : pattern ≠ "stationary_presence") :
    presencePattern tells present moving busy ≠ some pattern := by
  unfold presencePattern
  split
  next =>
    split
    next => simpa using notConfirmed.symm
    next => split <;> simp [notStationary.symm]
  next => simp

theorem anomalyPattern_eq : anomalyPattern severalTypes severalAnomalous =
    some "multi_sensor_anomaly" ↔ severalTypes = true ∧ severalAnomalous = true := by
  cases severalTypes <;> cases severalAnomalous <;> decide

theorem anomalyPattern_other (notAnomaly : pattern ≠ "multi_sensor_anomaly") :
    anomalyPattern severalTypes severalAnomalous ≠ some pattern := by
  unfold anomalyPattern
  split
  next => simpa using notAnomaly.symm
  next => simp

end Pattern

theorem type_presenceWithMotion {settings : CorrelationSettings} {event : Event}
    {recent : List BufferedEvent} {found? : Option Match}
    (passed : presenceWithMotion settings event recent = .ok found?) :
    found?.map Match.correlationType = presencePattern
      (settings.presenceTypes.contains event.sensorType ||
        settings.motionTypes.contains event.sensorType)
      (recent.any BufferedEvent.presencePositive) (recent.any BufferedEvent.motionPositive)
      (exceeds recent.length settings.stationaryMinEvents) := by
  unfold presenceWithMotion at passed
  cases tells : settings.presenceTypes.contains event.sensorType ||
      settings.motionTypes.contains event.sensorType with
  | false =>
    simp only [tells, Bool.false_eq_true, if_false] at passed
    rw [<- Except.ok.inj passed]
    rfl
  | true =>
    simp only [tells, if_true] at passed
    cases presence : recent.any BufferedEvent.presencePositive with
    | false =>
      simp only [presence, Bool.not_false, if_true] at passed
      rw [<- Except.ok.inj passed]
      rfl
    | true =>
      simp only [presence, Bool.not_true, Bool.false_eq_true, if_false] at passed
      cases motion : recent.any BufferedEvent.motionPositive with
      | true =>
        simp only [motion, if_true] at passed
        rw [<- Except.ok.inj passed]
        rfl
      | false =>
        simp only [motion, Bool.false_eq_true, if_false] at passed
        cases stated : settings.stationaryMinEvents.asQuantity with
        | error misuse => simp [stated, bind, Except.bind] at passed
        | ok least =>
          simp only [stated, bind, Except.bind] at passed
          cases more : least.isBelow (.whole recent.length) with
          | true =>
            simp only [more, if_true] at passed
            rw [<- Except.ok.inj passed]
            simp [presencePattern, exceeds, stated, more]
          | false =>
            simp only [more, Bool.false_eq_true, if_false] at passed
            rw [<- Except.ok.inj passed]
            simp [presencePattern, exceeds, stated, more]

theorem type_gasWithOccupancy {settings : CorrelationSettings} {event : Event} {occupied : Bool}
    {found : Match} (passed : gasWithOccupancy settings event occupied = .ok (some found)) :
    found.correlationType = "gas_with_occupancy" := by
  unfold gasWithOccupancy at passed
  split at passed
  next =>
    cases level : (gasLevel event).mapError Misuse.ofFault with
    | error misuse => simp [level, bind, Except.bind] at passed
    | ok level? =>
      simp only [level, bind, Except.bind] at passed
      split at passed
      next => cases passed
      next =>
        split at passed
        next => cases passed
        next =>
          split at passed
          next => cases passed
          next =>
            split at passed
            next => cases passed
            next => split at passed <;> cases passed <;> rfl
  next => cases passed

theorem type_multiSensorAnomaly (location : String) (recent : List BufferedEvent) :
    (multiSensorAnomaly location recent).map Match.correlationType =
      anomalyPattern (2 <= (sortedTypes recent).length)
        (2 <= (recent.filter BufferedEvent.anomalous).length) := by
  unfold multiSensorAnomaly
  by_cases types : (sortedTypes recent).length < 2
  next => simp [anomalyPattern, types, Nat.not_le.mpr types]
  next =>
    by_cases anomalous : (recent.filter BufferedEvent.anomalous).length < 2
    next => simp [anomalyPattern, anomalous, Nat.not_le.mpr anomalous]
    next =>
      simp [anomalyPattern, types, anomalous, Nat.not_lt.mp types, Nat.not_lt.mp anomalous]

theorem type_occupancyChange (previous next : Bool) :
    (occupancyChange previous next).map Match.correlationType =
      if next = previous then none else some "occupancy_change" := by
  cases previous <;> cases next <;> rfl

theorem Passage.occupied {tracker : CorrelationTracker} {arrival : Arrival} {serial : Nat}
    (passage : tracker.Passage arrival serial) :
    occupancyAfter tracker.settings arrival.event (tracker.isOccupied arrival.event.location) =
      .ok passage.next := by
  obtain ⟨_, _, -, -, occupied, -⟩ := findings_cases passage.matched
  exact occupied

theorem Passage.isOccupied_after {tracker : CorrelationTracker} {arrival : Arrival} {serial : Nat}
    (passage : tracker.Passage arrival serial) (location : String) :
    (tracker.after (.process arrival serial)).isOccupied location =
      if arrival.event.location = location then passage.next else tracker.isOccupied location := by
  rw [passage.state]
  by_cases same : arrival.event.location = location
  next =>
    subst same
    simp [isOccupied]
  next => simp [isOccupied, same, Entries.get?_put_other _ _ same]

theorem isOccupied_clear (tracker : CorrelationTracker) (named location : String) :
    (tracker.clear named).isOccupied location =
      if named = location then false else tracker.isOccupied location := by
  by_cases same : named = location <;> simp [isOccupied, clear, Entries.get?_remove, same]

theorem settings_after (tracker : CorrelationTracker) (call : Call) :
    (tracker.after call).settings = tracker.settings := by
  cases call with
  | process arrival serial =>
    by_cases passed : (tracker.perform (.process arrival serial)).failure = none
    next =>
      obtain ⟨passage⟩ := passage_of_passed passed
      rw [passage.state]
      rfl
    next => exact (stuck_of_failed passed).settings
  | clear location => rfl
  | clearAll => rfl

theorem settings_run (tracker : CorrelationTracker) (calls : List Call) :
    (tracker.run calls).settings = tracker.settings := by
  induction calls generalizing tracker with
  | nil => rfl
  | cons call rest ih => exact (ih (tracker.after call)).trans (tracker.settings_after call)

end SensorAlerting.Detection.CorrelationTracker
