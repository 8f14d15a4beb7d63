import SensorAlerting.Proofs.Time.Epoch
import SensorAlerting.Worker.Basic

set_option autoImplicit false

/-!
What a worker counts. A payload is processed, or counted as an error, unless its time stamp is a
number that no system's clock can show, or the rate window reaches back before the calendar.
-/

namespace SensorAlerting

open SensorAlerting.Delivery SensorAlerting.Detection SensorAlerting.Number SensorAlerting.Time

namespace Event

def IsBeyondClocks (amount : Quantity) : Prop :=
  match inSeconds amount with
  | .ok seconds => AreBeyondSystem seconds
  | .error _ => True

instance : DecidablePred IsBeyondClocks := fun amount =>
  match read : inSeconds amount with
  | .ok seconds => decidable_of_iff (AreBeyondSystem seconds) (by simp [IsBeyondClocks, read])
  | .error _ => isTrue (by simp [IsBeyondClocks, read])

/-- Whether a payload has a number for its time stamp that no system's clock can show. -/
def StatesBeyondClocks (payload : Value) : Prop :=
  ∃ fields ∈ payload.fields?,
    ∃ amount ∈ (Value.ofOption (Entries.get? fields "timestamp")).quantity?,
      IsBeyondClocks amount

instance : DecidablePred StatesBeyondClocks := fun payload =>
  inferInstanceAs (Decidable (∃ fields ∈ payload.fields?, _))

theorem inSeconds_error {amount : Quantity} {fault : TimestampFault}
    (failed : inSeconds amount = .error fault) : fault = .tooLarge := by
  unfold inSeconds at failed
  split at failed
  next =>
    split at failed
    next => split at failed <;> simp_all
    next => cases failed
  next => cases failed

theorem isCounted_ofEpochFault (fault : EpochFault) :
    Worker.isCounted (.timestamp (ofEpochFault fault)) = false ↔ fault.IsBeyond := by
  cases fault <;> simp [Worker.isCounted, ofEpochFault, EpochFault.IsBeyond]

theorem ofEpochAmount_beyond (amount : Quantity) :
    (∃ fault, ofEpochAmount amount = .error fault ∧
      Worker.isCounted (.timestamp fault) = false) ↔ IsBeyondClocks amount := by
  unfold ofEpochAmount IsBeyondClocks
  cases read : inSeconds amount with
  | error fault =>
    obtain rfl := inSeconds_error read
    simp [bind, Except.bind, Worker.isCounted]
  | ok seconds =>
    dsimp only
    rw [<- ofEpoch_beyond]
    cases shown : ofEpoch seconds with
    | ok moment => simp [bind, Except.bind, shown]
    | error fault => simp [bind, Except.bind, shown, isCounted_ofEpochFault]

theorem readTimestamp_beyond (now : Moment) (value : Value) :
    (∃ fault, readTimestamp now value = .error fault ∧
      Worker.isCounted (.timestamp fault) = false) ↔
      ∃ amount ∈ value.quantity?, IsBeyondClocks amount := by
  cases value with
  | int number => simpa [readTimestamp, Value.quantity?] using ofEpochAmount_beyond (.whole number)
  | float | undefined => simpa [readTimestamp, Value.quantity?] using ofEpochAmount_beyond (.real _)
  | text content =>
    simp only [readTimestamp, Value.quantity?]
    split <;> simp [Worker.isCounted]
  | _ => simp [readTimestamp, Value.quantity?, Worker.isCounted]

theorem ofPayload_beyond (now : Moment) (payload : Value) :
    (∃ fault, ofPayload now payload = .error fault ∧ Worker.isCounted fault = false) ↔
      StatesBeyondClocks payload := by
  cases payload with
  | mapping fields =>
    have stamped := readTimestamp_beyond now (Value.ofOption (Entries.get? fields "timestamp"))
    simp only [StatesBeyondClocks, Value.fields?, Option.mem_some, exists_eq_left', ofPayload]
    rw [<- stamped]
    cases read : readTimestamp now (Value.ofOption (Entries.get? fields "timestamp")) with
    | error fault => simp
    | ok moment =>
      simp only [reduceCtorEq, false_and, exists_false, iff_false]
      rintro ⟨fault, failed, uncounted⟩
      split at failed
      next => cases failed
      next =>
        cases failed
        simp [Worker.isCounted] at uncounted
  | _ => simp [ofPayload, StatesBeyondClocks, Value.fields?, Worker.isCounted]

end Event

namespace Worker

def Processed (worker : Worker) (now : Moment) (payload : Value)
    (ended : Worker × Except WorkerFault (List Alert)) : Prop :=
  ∃ event alerts, Event.ofPayload now payload = .ok event ∧
    (worker.evaluate now event).2 = .ok alerts ∧ ended.2 = .ok alerts ∧
    ended.1.processed = worker.processed + 1 ∧ ended.1.errors = worker.errors

def Refused (worker : Worker) (ended : Worker × Except WorkerFault (List Alert)) : Prop :=
  ∃ deviceId cause, ended.2 = .error (.processing deviceId cause) ∧
    ended.1.errors = worker.errors + 1 ∧ ended.1.processed = worker.processed

/-- Whether a payload is processed while the rate window reaches back before the calendar. -/
def OutreachesCalendar (worker : Worker) (now : Moment) (payload : Value) : Prop :=
  ∃ event alerts, Event.ofPayload now payload = .ok event ∧
    (worker.evaluate now event).2 = .ok alerts ∧
    inCalendar (now.wall - worker.settings.rateWindow) = false

theorem evaluate_frame (worker : Worker) (now : Moment) (event : Event) :
    (worker.evaluate now event).1.processed = worker.processed ∧
      (worker.evaluate now event).1.errors = worker.errors ∧
      (worker.evaluate now event).1.settings = worker.settings := ⟨rfl, rfl, rfl⟩

theorem trim_cases (worker : Worker) (now : Moment) :
    (inCalendar (now.wall - worker.settings.rateWindow) = true ∧
      ∃ trimmed, worker.trim now = .ok trimmed ∧ trimmed.processed = worker.processed ∧
        trimmed.errors = worker.errors ∧ trimmed.settings = worker.settings) ∨
    (inCalendar (now.wall - worker.settings.rateWindow) = false ∧
      worker.trim now = .error .rateWindow) := by
  unfold trim Moment.add?
  cases inside : inCalendar (now.wall - worker.settings.rateWindow) with
  | true =>
    rw [Int.sub_eq_add_neg] at inside
    simp [inside]
  | false =>
    rw [Int.sub_eq_add_neg] at inside
    simp [inside]

theorem saved_frame (worker : Worker) (event : Event) :
    ((worker.ask event).keep event).processed = worker.processed ∧
      ((worker.ask event).keep event).errors = worker.errors ∧
      ((worker.ask event).keep event).settings = worker.settings := ⟨rfl, rfl, rfl⟩

theorem conclude_spec (worker : Worker) (now : Moment) (alerts : List Alert) :
    let concluded := worker.conclude now alerts
    concluded.1.processed = worker.processed + 1 ∧ concluded.1.errors = worker.errors ∧
      concluded.1.settings = worker.settings ∧
      concluded.2 =
        if inCalendar (now.wall - worker.settings.rateWindow) then .ok alerts
        else .error .rateWindow := by
  dsimp only [conclude]
  cases trim_cases (worker.count now) now with
  | inl inside =>
    obtain ⟨inside, trimmed, trims, processed, errors, settings⟩ := inside
    rw [trims]
    exact ⟨processed, errors, settings, (if_pos inside).symm⟩
  | inr outside =>
    obtain ⟨outside, trims⟩ := outside
    rw [trims]
    refine ⟨rfl, rfl, rfl, (if_neg ?_).symm⟩
    simpa [count] using outside

theorem process_ok {worker : Worker} {now : Moment} {event : Event} {alerts : List Alert}
    (evaluated : (worker.evaluate now event).2 = .ok alerts) :
    (worker.process now event).1.processed = worker.processed + 1 ∧
      (worker.process now event).1.errors = worker.errors ∧
      (worker.process now event).2 =
        if inCalendar (now.wall - worker.settings.rateWindow) then .ok alerts
        else .error .rateWindow := by
  obtain ⟨processed, errors, settings⟩ := worker.evaluate_frame now event
  unfold process
  cases step : worker.evaluate now event with
  | mk between outcome =>
    obtain rfl : outcome = .ok alerts := by simpa [step] using evaluated
    rw [step] at processed errors settings
    obtain ⟨sameProcessed, sameErrors, sameSettings⟩ := between.saved_frame event
    obtain ⟨counted, kept, -, concluded⟩ :=
      ((between.ask event).keep event).conclude_spec now alerts
    dsimp only at processed errors settings ⊢
    exact ⟨by omega, by omega, by rw [concluded, sameSettings, settings]⟩

theorem process_error {worker : Worker} {now : Moment} {event : Event} {fault : EvaluationFault}
    (evaluated : (worker.evaluate now event).2 = .error fault) :
    Refused worker (worker.process now event) := by
  obtain ⟨processed, errors, -⟩ := worker.evaluate_frame now event
  unfold process
  cases step : worker.evaluate now event with
  | mk between outcome =>
    obtain rfl : outcome = .error fault := by simpa [step] using evaluated
    rw [step] at processed errors
    exact ⟨_, _, rfl, by simpa [fail] using errors, by simpa [fail] using processed⟩

theorem handle_error (worker : Worker) {now : Moment} {payload : Value} {fault : PayloadFault}
    (unread : Event.ofPayload now payload = .error fault) :
    if isCounted fault then worker.Refused (worker.handle now payload)
    else ∃ stamp, worker.handle now payload = (worker, .error (.timestamp stamp)) := by
  cases fault with
  | timestamp stamp => cases stamp <;> simp [handle, unread, isCounted, Refused, fail]
  | _ => simp [handle, unread, isCounted, Refused, fail]

theorem handle_beyond (worker : Worker) (now : Moment) {payload : Value}
    (stated : Event.StatesBeyondClocks payload) :
    ∃ stamp, worker.handle now payload = (worker, .error (.timestamp stamp)) := by
  obtain ⟨fault, unread, uncounted⟩ := (Event.ofPayload_beyond now payload).mpr stated
  simpa [uncounted] using worker.handle_error unread

theorem handle_outreaching {worker : Worker} {now : Moment} {payload : Value}
    (outreaches : worker.OutreachesCalendar now payload) :
    (worker.handle now payload).2 = .error .rateWindow ∧
      (worker.handle now payload).1.processed = worker.processed + 1 ∧
      (worker.handle now payload).1.errors = worker.errors := by
  obtain ⟨event, alerts, read, evaluated, outside⟩ := outreaches
  obtain ⟨processed, errors, outcome⟩ := process_ok evaluated
  rw [outside, if_neg (by decide)] at outcome
  simp only [handle, read]
  exact ⟨outcome, processed, errors⟩

theorem handle_accounted {worker : Worker} {now : Moment} {payload : Value}
    (clocked : ¬ Event.StatesBeyondClocks payload)
    (within : ¬ worker.OutreachesCalendar now payload) :
    worker.Processed now payload (worker.handle now payload) ∨
      worker.Refused (worker.handle now payload) := by
  cases read : Event.ofPayload now payload with
  | error fault =>
    have counted : isCounted fault = true := by
      rw [<- Event.ofPayload_beyond now payload] at clocked
      simpa [read] using clocked
    exact .inr (by simpa [counted] using worker.handle_error read)
  | ok event =>
    have processes : worker.handle now payload = worker.process now event := by simp [handle, read]
    rw [processes]
    cases evaluated : (worker.evaluate now event).2 with
    | error fault => exact .inr (process_error evaluated)
    | ok alerts =>
      have inside : inCalendar (now.wall - worker.settings.rateWindow) = true := by
        simpa [OutreachesCalendar, read, evaluated] using within
      obtain ⟨processed, errors, outcome⟩ := process_ok evaluated
      rw [inside, if_pos rfl] at outcome
      exact .inl ⟨event, alerts, read, evaluated, outcome, processed, errors⟩

theorem process_settings (worker : Worker) (now : Moment) (event : Event) :
    (worker.process now event).1.settings = worker.settings := by
  obtain ⟨-, -, settings⟩ := worker.evaluate_frame now event
  unfold process
  cases step : worker.evaluate now event with
  | mk between outcome =>
    rw [step] at settings
    cases outcome with
    | error fault => exact settings
    | ok alerts =>
      obtain ⟨-, -, concluded, -⟩ := ((between.ask event).keep event).conclude_spec now alerts
      exact concluded.trans ((between.saved_frame event).2.2.trans settings)

theorem handle_settings (worker : Worker) (now : Moment) (payload : Value) :
    (worker.handle now payload).1.settings = worker.settings := by
  unfold handle
  split
  next event _ => exact worker.process_settings now event
  next => rfl
  next => rfl
  next => rfl

/-- Every payload is accounted for, except for two kinds. One has a time stamp that no system's
clock can show: then the worker stays as it was. The other comes while the rate window reaches back
before the calendar: it counts as processed, but fails. A payload too deep to be copied, which no
event is made of either, is taken for one that can be copied, here as in `Event.ofPayload`. -/
theorem accounted_iff (worker : Worker) (now : Moment) (payload : Value) :
    let ended := worker.handle now payload
    (worker.Processed now payload ended ∨ worker.Refused ended ↔
      ¬ Event.StatesBeyondClocks payload ∧ ¬ worker.OutreachesCalendar now payload) ∧
    (Event.StatesBeyondClocks payload ->
      ∃ stamp, ended = (worker, .error (.timestamp stamp))) ∧
    (worker.OutreachesCalendar now payload ->
      ended.2 = .error .rateWindow ∧ ended.1.processed = worker.processed + 1 ∧
        ended.1.errors = worker.errors) := by
  refine ⟨⟨fun accounted => ⟨fun stated => ?_, fun outreaches => ?_⟩, fun clear => ?_⟩,
    worker.handle_beyond now, handle_outreaching⟩
  next =>
    obtain ⟨stamp, same⟩ := worker.handle_beyond now stated
    simp [Processed, Refused, same] at accounted
  next =>
    have outcome := (handle_outreaching outreaches).1
    simp [Processed, Refused, outcome] at accounted
  next => exact handle_accounted clear.1 clear.2

def fresh : Worker :=
  .create
    { sensorTimeout := .whole 15, checkSeconds := .whole 60, failureChannels := []
      slowEventSeconds := .whole 1, rateWindow := minute }
    .empty { throttles := .empty, anomaly := none, correlation := none } .nowhere
    (.create { window := 5 * minute, retention := hour, timeout := .null
               queueSize := .ok (.whole 1000), history := none } [])

theorem unaccounted_farFuture :
    let payload : Value := .mapping [("device_id", .text "d1"), ("sensor_type", .text "mq134"),
      ("timestamp", .int 1000000000000000000000000000000)]
    let ended := fresh.handle (universal 0) payload
    ¬ (fresh.Processed (universal 0) payload ended ∨ fresh.Refused ended) := by
  intro payload ended
  have stated : Event.StatesBeyondClocks payload := by decide +kernel
  obtain ⟨stamp, same⟩ := fresh.handle_beyond (universal 0) stated
  simp [Processed, Refused, ended, same]

end Worker

end SensorAlerting
