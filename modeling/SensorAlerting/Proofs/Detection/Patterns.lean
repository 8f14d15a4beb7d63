import SensorAlerting.Proofs.Detection.Agreement
import SensorAlerting.Proofs.Items
import SensorAlerting.Proofs.Time.Onward

set_option autoImplicit false

/-!
Patterns across sensors, as found in all that happened at a location since it was last cleared. A
buffer is what is left of the last events there once old ones were dropped from its front, and what
was dropped is never within the window again, as the clock never goes back.
-/

namespace SensorAlerting.Detection.CorrelationTracker

open SensorAlerting.Number SensorAlerting.Time

def isOld (horizon : Int) (now : Moment) (entry : BufferedEvent) : Bool :=
  decide (horizon <= now.since entry.arrival)

def isRecent (window : Int) (now : Moment) (entry : BufferedEvent) : Bool :=
  decide (now.since entry.arrival < window)

/-- A buffer beside all entries that were ever put into it, at an instant. -/
structure Retains (capacity : Nat) (window since : Int) (entries buffer : List BufferedEvent) :
    Prop where
  past : ∀ entry ∈ entries, entry.arrival.instant <= since
  kept : ∃ dropped, lastItems capacity entries = dropped ++ buffer ∧
    ∀ entry ∈ dropped, window <= since - entry.arrival.instant

namespace Retains

variable {capacity : Nat} {window since : Int} {entries buffer : List BufferedEvent}

theorem empty (capacity : Nat) (window since : Int) : Retains capacity window since [] [] where
  past := by simp
  kept := ⟨[], by simp [lastItems], by simp⟩

theorem later {next : Int} (retains : Retains capacity window since entries buffer)
    (onward : since <= next) : Retains capacity window next entries buffer := by
  obtain ⟨past, dropped, parts, tooOld⟩ := retains
  refine ⟨fun entry member => Int.le_trans (past entry member) onward, dropped, parts, ?_⟩
  intro entry member
  have age := tooOld entry member
  omega

theorem record (retains : Retains capacity window since entries buffer) {entry : BufferedEvent}
    (present : entry.arrival.instant <= since) :
    Retains capacity window since (entries ++ [entry])
      (lastItems capacity (buffer ++ [entry])) := by
  obtain ⟨past, dropped, parts, tooOld⟩ := retains
  refine ⟨?_, lastItems (capacity - (buffer ++ [entry]).length) dropped, ?_, ?_⟩
  · intro other member
    cases List.mem_append.mp member with
    | inl older => exact past other older
    | inr last => exact List.mem_singleton.mp last ▸ present
  -- Of what was dropped before, only what the last items still reach back to counts as dropped.
  · rw [<- lastItems_grown, parts, List.append_assoc, lastItems_append]
  · intro other member
    exact tooOld other (List.mem_of_mem_drop member)

/-- What is dropped for twice the age of the window is out of the window. -/
theorem purge {now : Moment} (retains : Retains capacity window now.instant entries buffer) :
    Retains capacity window now.instant entries (buffer.dropWhile (isOld (window * 2) now)) := by
  obtain ⟨past, dropped, parts, tooOld⟩ := retains
  have split := List.takeWhile_append_dropWhile (p := isOld (window * 2) now) (l := buffer)
  refine ⟨past, dropped ++ buffer.takeWhile (isOld (window * 2) now), ?_, ?_⟩
  · rw [parts, List.append_assoc, split]
  · intro entry member
    cases List.mem_append.mp member with
    | inl already => exact tooOld entry already
    | inr purged =>
      have old : window * 2 <= now.instant - entry.arrival.instant :=
        of_decide_eq_true (List.all_eq_true.mp List.all_takeWhile entry purged)
      have inBuffer : entry ∈ buffer := (List.takeWhile_sublist _).subset purged
      have inEntries : entry ∈ lastItems capacity entries := by
        rw [parts]
        exact List.mem_append_right _ inBuffer
      -- No age is below nought, so that what is twice as old as the window is as old as it, too.
      have before := past entry (List.mem_of_mem_drop inEntries)
      omega

theorem recent {now : Moment} (retains : Retains capacity window now.instant entries buffer) :
    buffer.filter (isRecent window now) =
      (lastItems capacity entries).filter (isRecent window now) := by
  obtain ⟨-, dropped, parts, tooOld⟩ := retains
  have gone : dropped.filter (isRecent window now) = [] := by
    refine List.filter_eq_nil_iff.mpr fun entry member young => ?_
    have age := tooOld entry member
    have within : now.instant - entry.arrival.instant < window := of_decide_eq_true young
    omega
  rw [parts, List.filter_append, gone, List.nil_append]

end Retains

theorem bufferOf_openBuffer (tracker : CorrelationTracker) (opened location : String) :
    (tracker.openBuffer opened).bufferOf location = tracker.bufferOf location := by
  by_cases same : opened = location
  next => simp [openBuffer, bufferOf, same]
  next => simp [openBuffer, bufferOf, Entries.get?_put_other _ _ same]

theorem bufferOf_record (tracker : CorrelationTracker) (bound : Bound) (entry : BufferedEvent)
    (recorded location : String) :
    (tracker.record bound recorded entry).bufferOf location =
      if recorded = location then keepNewest bound (tracker.bufferOf location ++ [entry])
      else tracker.bufferOf location := by
  by_cases same : recorded = location
  next => simp [record, bufferOf, same]
  next => simp [record, bufferOf, Entries.get?_put_other _ _ same, same]

theorem bufferOf_clear (tracker : CorrelationTracker) (named location : String) :
    (tracker.clear named).bufferOf location =
      if named = location then [] else tracker.bufferOf location := by
  by_cases same : named = location <;> simp [bufferOf, clear, Entries.get?_remove, same]

theorem bufferOf_purge {tracker : CorrelationTracker} (distinct : Entries.Distinct tracker.buffers)
    (now : Moment) (horizon : Int) (location : String) :
    (tracker.purge now horizon).bufferOf location =
      (tracker.bufferOf location).dropWhile (isOld horizon now) := by
  have mapped := Entries.get?_mapItems tracker.buffers
    (fun buffer => buffer.dropWhile (isOld horizon now)) location
  have filtered := Entries.get?_filter
    (distinct.mapItems fun buffer => buffer.dropWhile (isOld horizon now))
    (fun entry => !entry.2.isEmpty) location
  rw [mapped] at filtered
  have found : Entries.get? (tracker.purge now horizon).buffers location = _ := filtered
  rw [bufferOf, found, bufferOf]
  cases Entries.get? tracker.buffers location with
  | none => rfl
  | some buffer =>
    -- A buffer that is dropped because it is empty reads as an empty one.
    cases rest : buffer.dropWhile (isOld horizon now) <;> simp [rest, Option.filter]

theorem distinct_buffered {tracker : CorrelationTracker}
    (distinct : Entries.Distinct tracker.buffers) (bound : Bound) (arrival : Arrival)
    (entry : BufferedEvent) : Entries.Distinct (tracker.buffered bound arrival entry).buffers :=
  (((distinct.put _ _).put _ _).mapItems _).filter _

theorem bufferOf_buffered {tracker : CorrelationTracker}
    (distinct : Entries.Distinct tracker.buffers) (bound : Bound) (arrival : Arrival)
    (entry : BufferedEvent) (location : String) :
    (tracker.buffered bound arrival entry).bufferOf location =
      (if arrival.event.location = location then
        keepNewest bound (tracker.bufferOf location ++ [entry])
      else tracker.bufferOf location).dropWhile
        (isOld (tracker.settings.window * 2) arrival.now) := by
  have recorded : Entries.Distinct
      ((tracker.openBuffer arrival.event.location).record bound arrival.event.location
        entry).buffers := (distinct.put _ _).put _ _
  rw [buffered, bufferOf_purge recorded, bufferOf_record, bufferOf_openBuffer]

def entryAt (settings : CorrelationSettings) (arrival : Arrival) : BufferedEvent :=
  { arrival := arrival.now
    deviceId := arrival.event.deviceId
    sensorType := arrival.event.sensorType
    presencePositive := (isPresencePositive settings arrival.event).toOption.getD false
    motionPositive := (isMotionPositive settings arrival.event).toOption.getD false
    anomalous := isAnomalous arrival.event arrival.related }

theorem eq_entryAt {settings : CorrelationSettings} {arrival : Arrival} {entry : BufferedEvent}
    (entered : entryOf settings arrival.now arrival.event arrival.related = .ok entry) :
    entry = entryAt settings arrival := by
  cases presence : isPresencePositive settings arrival.event with
  | error fault => simp [entryOf, presence, bind, Except.bind] at entered
  | ok present =>
    cases motion : isMotionPositive settings arrival.event with
    | error fault => simp [entryOf, presence, motion, bind, Except.bind] at entered
    | ok moving =>
      simp only [entryOf, presence, motion, bind, Except.bind] at entered
      rw [<- Except.ok.inj entered, entryAt, presence, motion]
      rfl

def flagOf (settings : CorrelationSettings) (log : List Arrival) : Bool :=
  log.foldl
    (fun flag arrival => (occupancyAfter settings arrival.event flag).toOption.getD flag) false

theorem flagOf_concat (settings : CorrelationSettings) (log : List Arrival) (arrival : Arrival) :
    flagOf settings (log ++ [arrival]) =
      (occupancyAfter settings arrival.event (flagOf settings log)).toOption.getD
        (flagOf settings log) := by
  simp [flagOf, List.foldl_append]

/-- The events that count for the patterns when one arrives: of the last ones at its location those
that are not as old as the window. -/
def concerned (settings : CorrelationSettings) (capacity : Nat) (log : List Arrival)
    (arrival : Arrival) : List Arrival :=
  (lastItems capacity (log ++ [arrival])).filter fun other =>
    decide (arrival.now.since other.now < settings.window)

theorem bound_of_whole {stated : Value} {size : Int} {bound : Bound}
    (whole : stated.asWhole = .ok size) (bounded : stated.asBound = .ok bound) :
    bound = some size.toNat := by
  cases stated with
  | null => cases whole
  | _ =>
    simp only [Value.asBound, whole, bind, Except.bind, capacityFrom] at bounded
    split at bounded
    next => cases bounded
    next capacity passed =>
      split at passed
      next => cases passed
      next =>
        split at passed
        next => cases passed
        next => rw [<- Except.ok.inj bounded, <- Except.ok.inj passed]

structure Knows (settings : CorrelationSettings) (capacity : Nat) (location : String)
    (since : Int) (log : List Arrival) (tracker : CorrelationTracker) : Prop where
  same : tracker.settings = settings
  distinct : Entries.Distinct tracker.buffers
  retains : Retains capacity settings.window since (log.map (entryAt settings))
    (tracker.bufferOf location)
  flag : tracker.isOccupied location = flagOf settings log

namespace Knows

variable {settings : CorrelationSettings} {size since : Int} {location : String}
  {log : List Arrival} {tracker : CorrelationTracker}

theorem start (settings : CorrelationSettings) (capacity : Nat) (location : String)
    (since : Int) : Knows settings capacity location since [] (.start settings) where
  same := rfl
  distinct := List.nodup_nil
  retains := .empty capacity settings.window since
  flag := rfl

theorem later {capacity : Nat} {next : Int}
    (knows : Knows settings capacity location since log tracker) (onward : since <= next) :
    Knows settings capacity location next log tracker :=
  { knows with retains := knows.retains.later onward }

theorem buffered (knows : Knows settings size.toNat location since log tracker)
    (whole : settings.bufferSize.asWhole = .ok size) {arrival : Arrival} {bound : Bound}
    {entry : BufferedEvent} (onward : since <= arrival.now.instant)
    (bounded : tracker.settings.bufferSize.asBound = .ok bound)
    (entered : entryOf tracker.settings arrival.now arrival.event arrival.related = .ok entry)
    (serial : Nat) :
    Retains size.toNat settings.window arrival.now.instant
      ((logAfter location log (.process arrival serial)).map (entryAt settings))
      ((tracker.buffered bound arrival entry).bufferOf location) := by
  obtain ⟨rfl, distinct, retains, -⟩ := knows
  obtain rfl := bound_of_whole whole bounded
  obtain rfl := eq_entryAt entered
  rw [bufferOf_buffered distinct, logAfter_process]
  by_cases here : arrival.event.location = location
  next =>
    have present : (entryAt tracker.settings arrival).arrival.instant <= arrival.now.instant :=
      Int.le_refl _
    rw [if_pos here, if_pos here, List.map_append]
    exact ((retains.later onward).record present).purge
  next =>
    rw [if_neg here, if_neg here]
    exact (retains.later onward).purge

theorem process (knows : Knows settings size.toNat location since log tracker)
    (whole : settings.bufferSize.asWhole = .ok size) {arrival : Arrival} {serial : Nat}
    (onward : since <= arrival.now.instant) (passage : tracker.Passage arrival serial) :
    Knows settings size.toNat location arrival.now.instant
      (logAfter location log (.process arrival serial))
      (tracker.after (.process arrival serial)) where
  same := by
    rw [passage.state, <- knows.same]
    rfl
  distinct := by
    rw [passage.state]
    exact distinct_buffered knows.distinct _ _ _
  retains := by
    rw [passage.state]
    exact knows.buffered whole onward passage.bounded passage.entered serial
  flag := by
    have occupied := passage.occupied
    rw [passage.isOccupied_after location, logAfter_process]
    by_cases here : arrival.event.location = location
    next =>
      rw [here, knows.flag, knows.same] at occupied
      rw [if_pos here, if_pos here, flagOf_concat, occupied]
      rfl
    next => rw [if_neg here, if_neg here, knows.flag]

theorem clear (knows : Knows settings size.toNat location since log tracker) (named : String) :
    Knows settings size.toNat location since (logAfter location log (.clear named))
      (tracker.clear named) := by
  have flagged := tracker.isOccupied_clear named location
  have left := tracker.bufferOf_clear named location
  have distinct := knows.distinct.remove named
  rw [logAfter_clear]
  by_cases same : named = location
  next =>
    rw [if_pos same] at flagged left ⊢
    exact ⟨knows.same, distinct, left ▸ .empty _ _ _, flagged⟩
  next =>
    rw [if_neg same] at flagged left ⊢
    exact ⟨knows.same, distinct, left ▸ knows.retains, flagged.trans knows.flag⟩

theorem after (knows : Knows settings size.toNat location since log tracker)
    (whole : settings.bufferSize.asWhole = .ok size) {call : Call}
    (passed : (tracker.perform call).failure = none)
    (onward : ∀ time ∈ call.time?, since <= time) :
    Knows settings size.toNat location (call.time?.getD since) (logAfter location log call)
      (tracker.after call) := by
  cases call with
  | process arrival serial =>
    obtain ⟨passage⟩ := passage_of_passed passed
    exact knows.process whole (onward _ rfl) passage
  | clear named => exact knows.clear named
  | clearAll => exact ⟨knows.same, List.nodup_nil, .empty _ _ _, rfl⟩

theorem recent (knows : Knows settings size.toNat location since log tracker)
    (whole : settings.bufferSize.asWhole = .ok size) {arrival : Arrival} {bound : Bound}
    {entry : BufferedEvent} (here : arrival.event.location = location)
    (onward : since <= arrival.now.instant)
    (bounded : tracker.settings.bufferSize.asBound = .ok bound)
    (entered : entryOf tracker.settings arrival.now arrival.event arrival.related = .ok entry) :
    (tracker.buffered bound arrival entry).recent location arrival.now =
      (concerned settings size.toNat log arrival).map (entryAt settings) := by
  have retains := knows.buffered whole onward bounded entered 0
  rw [logAfter_process, if_pos here] at retains
  have filtered := retains.recent
  rw [<- map_lastItems, List.filter_map, <- knows.same] at filtered
  rw [concerned, <- knows.same]
  exact filtered

theorem outcome_eq {other : CorrelationTracker}
    (knows : Knows settings size.toNat location since log tracker)
    (otherKnows : Knows settings size.toNat location since log other)
    (whole : settings.bufferSize.asWhole = .ok size) {arrival : Arrival}
    (here : arrival.event.location = location) (onward : since <= arrival.now.instant)
    (serial : Nat) :
    (tracker.perform (.process arrival serial)).outcome =
      (other.perform (.process arrival serial)).outcome := by
  have sameSettings := knows.same.trans otherKnows.same.symm
  refine outcome_congr sameSettings (fun bound entry bounded entered => ?_) ?_ serial
  · rw [here, knows.recent whole here onward bounded entered]
    rw [sameSettings] at bounded entered
    rw [otherKnows.recent whole here onward bounded entered]
  · rw [here, knows.flag, otherKnows.flag]

theorem run {other : CorrelationTracker}
    (knows : Knows settings size.toNat location since log tracker)
    (otherKnows : Knows settings size.toNat location since log other)
    (whole : settings.bufferSize.asWhole = .ok size) {calls rest : List Call}
    (onward : Onward Call.time? since (calls ++ rest)) (unfailing : tracker.Unfailing calls) :
    ∃ reached, Onward Call.time? reached rest ∧
      Knows settings size.toNat location reached (calls.foldl (logAfter location) log)
        (tracker.run calls) ∧
      Knows settings size.toNat location reached (calls.foldl (logAfter location) log)
        (other.run (calls.filter (Call.isAbout location))) := by
  -- Both trackers know the same log after each call; calls elsewhere move only one of them.
  induction calls generalizing since log tracker other with
  | nil => exact ⟨since, onward, knows, otherKnows⟩
  | cons call calls ih =>
    obtain ⟨passed, unfailing⟩ := unfailing
    have next := knows.after whole passed onward.head
    cases about : call.isAbout location with
    | false =>
      have same : logAfter location log call = log := if_neg (by simp [about])
      rw [same] at next
      rw [List.foldl_cons, same, List.filter_cons_of_neg (by simp [about])]
      exact ih next (otherKnows.later onward.head_le) onward.tail unfailing
    | true =>
      have otherPassed : (other.perform call).failure = none := by
        cases call with
        | process arrival serial =>
          have here : arrival.event.location = location := beq_iff_eq.mp about
          have same := knows.outcome_eq otherKnows whole here (onward.head _ rfl) serial
          exact Evaluation.failure_eq_none_of_outcome same.symm passed
        | clear named => rfl
        | clearAll => rfl
      rw [List.foldl_cons, List.filter_cons_of_pos about]
      exact ih next (otherKnows.after whole otherPassed onward.head) onward.tail unfailing

end Knows

def Raised (evaluation : Evaluation CorrelationTracker) (pattern : String) : Prop :=
  ∃ submission ∈ evaluation.submissions, submission.alert.ruleId = "correlation_" ++ pattern

theorem ruleId_submissionOf (arrival : Arrival) (found : Match) (serial : Nat) :
    (submissionOf arrival found serial).alert.ruleId = "correlation_" ++ found.correlationType :=
  rfl

theorem Passage.raised_iff {tracker : CorrelationTracker} {arrival : Arrival} {serial : Nat}
    (passage : tracker.Passage arrival serial) (pattern : String) :
    Raised (tracker.perform (.process arrival serial)) pattern ↔
      pattern ∈ passage.found.map Match.correlationType := by
  have named : ∀ found : Match,
      "correlation_" ++ found.correlationType = "correlation_" ++ pattern ↔
        found.correlationType = pattern := fun _ => String.append_right_inj _
  have ruleIds : (submissionsOf arrival serial passage.found).map
        (fun submission => submission.alert.ruleId) =
      passage.found.map fun found => "correlation_" ++ found.correlationType :=
    Evaluation.numbered_map (ruleId_submissionOf arrival) serial passage.found
  have listed : Raised (tracker.perform (.process arrival serial)) pattern ↔
      "correlation_" ++ pattern ∈ (submissionsOf arrival serial passage.found).map
        (fun submission => submission.alert.ruleId) := by
    simp [Raised, passage.submissions]
  rw [listed, ruleIds]
  simp [named]

section Found

variable {settings : CorrelationSettings} {event : Event} {events : List Arrival}
  {previous next : Bool} {found : List Match}

def TellsPresence (settings : CorrelationSettings) (event : Event) : Prop :=
  event.sensorType ∈ settings.presenceTypes ∨ event.sensorType ∈ settings.motionTypes

def SomePresent (settings : CorrelationSettings) (events : List Arrival) : Prop :=
  ∃ other ∈ events, isPresencePositive settings other.event = .ok true

def SomeMoving (settings : CorrelationSettings) (events : List Arrival) : Prop :=
  ∃ other ∈ events, isMotionPositive settings other.event = .ok true

def SeveralTypes (events : List Arrival) : Prop :=
  ∃ first ∈ events, ∃ second ∈ events, first.event.sensorType ≠ second.event.sensorType

def anomalousAmong (events : List Arrival) : List Arrival :=
  events.filter fun other => isAnomalous other.event other.related

theorem tellsPresence_iff : TellsPresence settings event ↔
    (settings.presenceTypes.contains event.sensorType ||
      settings.motionTypes.contains event.sensorType) = true := by
  simp [TellsPresence]

theorem isPositive_iff (reported : Except Fault Bool) :
    reported.toOption.getD false = true ↔ reported = .ok true := by
  cases reported <;> simp [Except.toOption]

theorem somePresent_iff : SomePresent settings events ↔
    (events.map (entryAt settings)).any BufferedEvent.presencePositive = true := by
  simp [SomePresent, entryAt, isPositive_iff]

theorem someMoving_iff : SomeMoving settings events ↔
    (events.map (entryAt settings)).any BufferedEvent.motionPositive = true := by
  simp [SomeMoving, entryAt, isPositive_iff]

theorem severalTypes_iff : SeveralTypes events ↔
    2 <= (sortedTypes (events.map (entryAt settings))).length := by
  rw [sortedTypes, List.length_mergeSort, two_le_length_distinct, List.map_map]
  constructor
  next =>
    rintro ⟨first, firstIn, second, secondIn, apart⟩
    exact ⟨_, List.mem_map_of_mem firstIn, _, List.mem_map_of_mem secondIn, apart⟩
  next =>
    rintro ⟨_, firstIn, _, secondIn, apart⟩
    obtain ⟨first, firstThere, rfl⟩ := List.mem_map.mp firstIn
    obtain ⟨second, secondThere, rfl⟩ := List.mem_map.mp secondIn
    exact ⟨first, firstThere, second, secondThere, apart⟩

theorem length_anomalous :
    ((events.map (entryAt settings)).filter BufferedEvent.anomalous).length =
      (anomalousAmong events).length := by
  rw [List.filter_map, List.length_map]
  rfl

variable (matched : findings settings event (events.map (entryAt settings)) previous =
  .ok (next, found))

include matched

theorem mem_types_iff {pattern : String} (noGas : pattern ≠ "gas_with_occupancy")
    (noChange : pattern ≠ "occupancy_change") :
    pattern ∈ found.map Match.correlationType ↔
      presencePattern
        (settings.presenceTypes.contains event.sensorType ||
          settings.motionTypes.contains event.sensorType)
        ((events.map (entryAt settings)).any BufferedEvent.presencePositive)
        ((events.map (entryAt settings)).any BufferedEvent.motionPositive)
        (exceeds (events.map (entryAt settings)).length settings.stationaryMinEvents) =
          some pattern ∨
      anomalyPattern (2 <= (sortedTypes (events.map (entryAt settings))).length)
        (2 <= ((events.map (entryAt settings)).filter BufferedEvent.anomalous).length) =
          some pattern := by
  obtain ⟨presence, gas, shown, smelled, -, rfl⟩ := findings_cases matched
  have gasOther : gas.map Match.correlationType ≠ some pattern := by
    intro named
    obtain ⟨found, rfl, rfl⟩ := Option.map_eq_some_iff.mp named
    exact noGas (type_gasWithOccupancy smelled)
  have changeOther : (occupancyChange previous next).map Match.correlationType ≠ some pattern := by
    rw [type_occupancyChange]
    split
    next => simp
    next => simpa using noChange.symm
  rw [<- type_presenceWithMotion shown, <- type_multiSensorAnomaly event.location,
    List.map_filterMap, List.mem_filterMap]
  simp only [id, List.mem_cons, List.not_mem_nil, or_false, exists_eq_or_imp, exists_eq_left,
    gasOther, changeOther, false_or]

theorem confirmed_iff : "confirmed_occupancy" ∈ found.map Match.correlationType ↔
    TellsPresence settings event ∧ SomePresent settings events ∧ SomeMoving settings events := by
  rw [mem_types_iff matched (by decide) (by decide), presencePattern_confirmed,
    <- tellsPresence_iff, <- somePresent_iff, <- someMoving_iff]
  exact or_iff_left (anomalyPattern_other (by decide))

theorem stationary_iff : "stationary_presence" ∈ found.map Match.correlationType ↔
    TellsPresence settings event ∧ SomePresent settings events ∧ ¬ SomeMoving settings events ∧
      exceeds events.length settings.stationaryMinEvents = true := by
  rw [mem_types_iff matched (by decide) (by decide), presencePattern_stationary,
    <- tellsPresence_iff, <- somePresent_iff, <- someMoving_iff, List.length_map]
  exact or_iff_left (anomalyPattern_other (by decide))

theorem anomaly_iff : "multi_sensor_anomaly" ∈ found.map Match.correlationType ↔
    SeveralTypes events ∧ 2 <= (anomalousAmong events).length := by
  rw [mem_types_iff matched (by decide) (by decide), anomalyPattern_eq, decide_eq_true_iff,
    decide_eq_true_iff, <- severalTypes_iff, length_anomalous]
  exact or_iff_right (presencePattern_other (by decide) (by decide))

end Found

/-- The patterns found in an event and the others that count, however small the buffers are and
however often they were purged: those of the last events at the location since it was last cleared
that are younger than the window. What happens elsewhere makes no difference, and what is handed on
is what is returned. -/
theorem patterns_in_window {settings : CorrelationSettings} {size : Int}
    (whole : settings.bufferSize.asWhole = .ok size) {calls : List Call} {arrival : Arrival}
    {serial : Nat} (ordered : InOrder Call.time? (calls ++ [.process arrival serial]))
    (unfailing : (start settings).Unfailing (calls ++ [.process arrival serial])) :
    let location := arrival.event.location
    let events := concerned settings size.toNat (logOf location calls) arrival
    let evaluation := ((start settings).run calls).perform (.process arrival serial)
    (Raised evaluation "confirmed_occupancy" ↔ TellsPresence settings arrival.event ∧
      SomePresent settings events ∧ SomeMoving settings events) ∧
    (Raised evaluation "stationary_presence" ↔ TellsPresence settings arrival.event ∧
      SomePresent settings events ∧ ¬ SomeMoving settings events ∧
      exceeds events.length settings.stationaryMinEvents = true) ∧
    (Raised evaluation "multi_sensor_anomaly" ↔
      SeveralTypes events ∧ 2 <= (anomalousAmong events).length) ∧
    evaluation.outcome =
      (((start settings).run (calls.filter (Call.isAbout location))).perform
        (.process arrival serial)).outcome ∧
    evaluation.alerts = evaluation.submissions.map Submission.alert := by
  intro location events evaluation
  obtain ⟨since, onward⟩ := ordered.onward
  obtain ⟨early, passed, -⟩ := unfailing.append
  obtain ⟨reached, later, knows, alone⟩ :=
    (Knows.start settings size.toNat location since).run (.start settings size.toNat location since)
      whole onward early
  have here := later.head arrival.now.instant rfl
  obtain ⟨passage⟩ := passage_of_passed passed
  have matched := passage.matched
  rw [knows.recent whole rfl here passage.bounded passage.entered, knows.same] at matched
  refine ⟨?_, ?_, ?_, knows.outcome_eq alone whole rfl here serial, alerts_of_passed passed⟩
  · exact (passage.raised_iff _).trans (confirmed_iff matched)
  · exact (passage.raised_iff _).trans (stationary_iff matched)
  · exact (passage.raised_iff _).trans (anomaly_iff matched)

def seen (sensorType location : String) (value seconds : Int) : Arrival :=
  { now := universal (seconds * second)
    event :=
      { deviceId := sensorType, sensorType, location, timestamp := universal 0
        readings := [("value", .int value), ("alert_level", .text "critical")] }
    related := [] }

/-- In a buffer of two, motion just within the window confirms presence, after what happened in the
hall has had the lab purged. -/
theorem patterns_in_window_lab :
    let settings : CorrelationSettings := { CorrelationSettings.default with bufferSize := .int 2 }
    let calls : List Call := [.process (seen "ld2410" "lab" 1 0) 0,
      .process (seen "ld2410" "lab" 1 20) 0, .process (seen "pir" "lab" 1 150) 0,
      .process (seen "pir" "hall" 1 160) 0]
    let arrival := seen "ld2410" "lab" 1 209
    let evaluation := ((start settings).run calls).perform (.process arrival 0)
    settings.bufferSize.asWhole = .ok 2 ∧
      InOrder Call.time? (calls ++ [.process arrival 0]) ∧
      (start settings).Unfailing (calls ++ [.process arrival 0]) ∧
      Raised evaluation "confirmed_occupancy" ∧ ¬ Raised evaluation "stationary_presence" ∧
      Raised evaluation "multi_sensor_anomaly" := by
  intro settings calls arrival evaluation
  have whole : settings.bufferSize.asWhole = .ok 2 := rfl
  have ordered : InOrder Call.time? (calls ++ [.process arrival 0]) := by
    unfold InOrder
    decide +kernel
  have unfailing : (start settings).Unfailing (calls ++ [.process arrival 0]) := by
    decide +kernel
  obtain ⟨confirmed, stationary, anomaly, -⟩ := patterns_in_window whole ordered unfailing
  have events : concerned settings (Int.toNat 2) (logOf arrival.event.location calls) arrival =
      [seen "pir" "lab" 1 150, arrival] := by rfl
  rw [events] at confirmed stationary anomaly
  have present : SomePresent settings [seen "pir" "lab" 1 150, arrival] :=
    ⟨arrival, by simp, by rfl⟩
  have moving : SomeMoving settings [seen "pir" "lab" 1 150, arrival] :=
    ⟨seen "pir" "lab" 1 150, by simp, by rfl⟩
  have several : SeveralTypes [seen "pir" "lab" 1 150, arrival] :=
    ⟨seen "pir" "lab" 1 150, by simp, arrival, by simp, by decide⟩
  refine ⟨whole, ordered, unfailing, confirmed.mpr ⟨.inl (by decide), present, moving⟩, ?_,
    anomaly.mpr ⟨several, by decide +kernel⟩⟩
  intro raised
  exact (stationary.mp raised).2.2.1 moving

end SensorAlerting.Detection.CorrelationTracker
