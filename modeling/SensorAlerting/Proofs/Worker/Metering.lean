import SensorAlerting.Proofs.Detection.Throttling
import SensorAlerting.Proofs.Worker.Turns
import SensorAlerting.Worker.Meter

set_option autoImplicit false

/-!
What the counters of a worker say. Here a run is judged by the attempts in it since the counters
were set back last: those that ended with an event counted, with their times, and those that failed.
The worker keeps two numbers and the times in the rate window; both come to the same.
-/

namespace SensorAlerting

open SensorAlerting.Number SensorAlerting.Time

/-- How an attempt to process an event ended. -/
inductive Tally where
  | success (now : Moment)
  | failure
deriving DecidableEq, Repr

namespace Tally

def success? : Tally -> Option Moment
  | .success now => some now
  | .failure => none

def successes (record : List Tally) : List Moment := record.filterMap success?

def failures (record : List Tally) : Nat := record.count .failure

theorem successes_success (record : List Tally) (now : Moment) :
    successes (record ++ [.success now]) = successes record ++ [now] := List.filterMap_append

theorem successes_failure (record : List Tally) :
    successes (record ++ [.failure]) = successes record :=
  List.filterMap_append.trans (List.append_nil _)

theorem failures_success (record : List Tally) (now : Moment) :
    failures (record ++ [.success now]) = failures record := by
  simp [failures]

theorem failures_failure (record : List Tally) :
    failures (record ++ [.failure]) = failures record + 1 := by
  simp [failures]

end Tally

def Errand.time? : Errand -> Option Int
  | .act (.finish _ now) => some now.instant
  | .measure now => some now.instant
  | _ => none

namespace Booth

def rejection? (now : Moment) (payload : Value) : Option Tally :=
  match Event.ofPayload now payload with
  | .ok _ => none
  | .error fault => if Worker.isCounted fault then some .failure else none

def reads (booth : Booth) : Bool :=
  booth.consumer == .asking && !booth.cancelled && booth.worker.running

def tally? (booth : Booth) : Errand -> Option Tally
  | .act (.call _ now payload) => rejection? now payload
  | .act (.receive now payload) => if booth.reads then rejection? now payload else none
  | .act (.enter place now) =>
    match booth.turn, booth.waiting[place]? with
    | none, some (party, event) =>
      if booth.admits party then
        match (booth.worker.evaluate now event).2 with
        | .ok _ => none
        | .error _ => some .failure
      else none
    | _, _ => none
  | .act (.finish _ now) => booth.turn.map fun _ => .success now
  | _ => none

def recordAfter (booth : Booth) (record : List Tally) : Errand -> List Tally
  | .reset _ => []
  | errand => record ++ (booth.tally? errand).toList

/-- The attempts since the counters were set back last. -/
def recordOf (booth : Booth) (record : List Tally) : List Errand -> List Tally
  | [] => record
  | errand :: rest => (booth.attend errand).recordOf (booth.recordAfter record errand) rest

theorem leave_worker (booth : Booth) : booth.leave.worker = booth.worker := by
  unfold leave
  split <;> rfl

theorem halt_worker (booth : Booth) : booth.halt.worker = booth.worker := by
  unfold halt
  split <;> rfl

theorem interrupt_worker (booth : Booth) : booth.interrupt.worker = booth.worker := by
  unfold interrupt
  split
  next =>
    dsimp only
    split
    next => split <;> rfl
    next => rfl
  next => rfl

end Booth

namespace Worker

variable {worker trimmed : Worker} {now : Moment}

theorem measure_ok (positive : 0 < trimmed.settings.rateWindow)
    (trims : worker.trim now = .ok trimmed) :
    ∃ metrics, worker.measure now = (trimmed, .ok metrics) ∧
      metrics.perSecond =
        rate trimmed.recent.length (spanSeconds trimmed.settings.rateWindow) ∧
      metrics.processed = trimmed.processed ∧ metrics.errors = trimmed.errors ∧
      metrics.successRate = successRate trimmed.processed trimmed.errors := by
  have filled : ¬ (trimmed.settings.rateWindow == 0) = true := by
    rw [beq_iff_eq]
    omega
  unfold measure metrics
  rw [trims]
  dsimp only [bind, Except.bind]
  rw [if_neg filled]
  exact ⟨_, rfl, rfl, rfl, rfl, rfl⟩

theorem measure_error {fault : MetricsFault} (trims : worker.trim now = .error fault) :
    worker.measure now = (worker, .error fault) := by
  unfold measure
  rw [trims]

theorem trim_settings (trims : worker.trim now = .ok trimmed) :
    trimmed.settings = worker.settings := by
  obtain ⟨-, other, trimsToo, -, -, settings⟩ | ⟨-, fails⟩ := worker.trim_cases now
  next =>
    obtain rfl := Except.ok.inj (trims.symm.trans trimsToo)
    exact settings
  next => cases trims.symm.trans fails

structure Tallies (worker other : Worker) : Prop where
  settings : other.settings = worker.settings
  processed : other.processed = worker.processed
  errors : other.errors = worker.errors
  recent : other.recent = worker.recent

inductive Told (worker : Worker) : Option Tally -> Worker -> Prop where
  | nothing {other : Worker} (same : Tallies worker other) : Told worker none other
  | failed {other : Worker} (same : Tallies worker other) : Told worker (some .failure) other.fail
  | counted {other : Worker} (same : Tallies worker other) (now : Moment) (alerts : List Alert) :
    Told worker (some (.success now)) (other.conclude now alerts).1

theorem Told.settings {other : Worker} {tally : Option Tally} (told : worker.Told tally other) :
    other.settings = worker.settings := by
  cases told with
  | nothing same => exact same.settings
  | failed same => exact same.settings
  | counted same now alerts => exact (conclude_spec _ now alerts).2.2.1.trans same.settings

end Worker

namespace Booth

theorem told_reject (booth : Booth) {now : Moment} {payload : Value} {fault : PayloadFault}
    (unread : Event.ofPayload now payload = .error fault) :
    booth.worker.Told (rejection? now payload) (booth.reject fault).worker := by
  unfold reject rejection?
  rw [unread]
  dsimp only
  split
  next => exact .failed ⟨rfl, rfl, rfl, rfl⟩
  next => exact .nothing ⟨rfl, rfl, rfl, rfl⟩

theorem told_call (booth : Booth) (place : Nat) (now : Moment) (payload : Value) :
    booth.worker.Told (rejection? now payload) (booth.call place now payload).worker := by
  unfold call
  split
  next event read =>
    rw [rejection?, read]
    exact .nothing ⟨rfl, rfl, rfl, rfl⟩
  next fault unread => exact booth.told_reject unread

theorem told_receive (booth : Booth) (now : Moment) (payload : Value) :
    booth.worker.Told (if booth.reads then rejection? now payload else none)
      (booth.receive now payload).worker := by
  have same : booth.worker.Tallies booth.worker := ⟨rfl, rfl, rfl, rfl⟩
  unfold receive reads
  cases booth.consumer == .asking && !booth.cancelled with
  | false => exact .nothing same
  | true =>
    rw [if_pos rfl, Bool.true_and]
    cases booth.worker.running with
    | false => exact .nothing same
    | true =>
      rw [if_pos rfl, if_pos rfl]
      split
      next event read =>
        rw [rejection?, read]
        exact .nothing same
      next fault unread => exact booth.told_reject unread

theorem told_enter (booth : Booth) (place : Nat) (now : Moment) :
    booth.worker.Told (booth.tally? (.act (.enter place now))) (booth.enter place now).worker := by
  have same : booth.worker.Tallies booth.worker := ⟨rfl, rfl, rfl, rfl⟩
  unfold enter
  simp only [tally?]
  cases booth.turn with
  | some turn => exact .nothing same
  | none =>
    cases booth.waiting[place]? with
    | none => exact .nothing same
    | some waiter =>
      obtain ⟨party, event⟩ := waiter
      dsimp only
      cases booth.admits party with
      | false => exact .nothing same
      | true =>
        rw [if_pos rfl, if_pos rfl]
        cases evaluated : booth.worker.evaluate now event with
        | mk worker outcome =>
          obtain rfl : (booth.worker.evaluate now event).1 = worker := by rw [evaluated]
          cases outcome with
          | ok alerts => exact .nothing ⟨rfl, rfl, rfl, rfl⟩
          | error fault =>
            dsimp only
            rw [(release_frame _ party).2.1]
            exact .failed ⟨rfl, rfl, rfl, rfl⟩

theorem told_finish (booth : Booth) (success : Bool) (now : Moment) :
    booth.worker.Told (booth.turn.map fun _ => .success now) (booth.finish success now).worker := by
  unfold finish
  cases booth.turn with
  | none => exact .nothing ⟨rfl, rfl, rfl, rfl⟩
  | some turn =>
    dsimp only
    rw [(release_frame _ turn.party).2.1]
    refine .counted ?_ now turn.alerts
    cases success <;> exact ⟨rfl, rfl, rfl, rfl⟩

theorem told_stop (booth : Booth) : booth.worker.Told none booth.stop.worker := by
  unfold stop
  split <;> exact .nothing ⟨rfl, rfl, rfl, rfl⟩

theorem told_launch (booth : Booth) (now : Moment) (consuming : Bool) :
    booth.worker.Told none (booth.launch now consuming).worker := by
  unfold launch
  split <;> exact .nothing ⟨rfl, rfl, rfl, rfl⟩

theorem worker_launch {booth : Booth} {plant : Plant} (same : booth.worker = plant.worker)
    (idle : booth.consumer = .over) (ended : booth.stops = 0) (now : Moment) (consuming : Bool) :
    (booth.launch now consuming).worker = (plant.start now consuming).worker := by
  unfold launch Plant.start
  rw [idle, ended, same]
  cases running : plant.worker.running with
  | false => rfl
  | true => exact same

theorem told_of_same {booth other : Booth} (same : other.worker = booth.worker) :
    booth.worker.Told none other.worker := by
  rw [same]
  exact .nothing ⟨rfl, rfl, rfl, rfl⟩

theorem told_step (booth : Booth) (act : Act) :
    booth.worker.Told (booth.tally? (.act act)) (booth.step act).worker := by
  cases act with
  | give place event => exact told_of_same rfl
  | call place now payload => exact booth.told_call place now payload
  | receive now payload => exact booth.told_receive now payload
  | leave => exact told_of_same booth.leave_worker
  | enter place now => exact booth.told_enter place now
  | finish success now => exact booth.told_finish success now
  | stop => exact booth.told_stop
  | halt => exact told_of_same booth.halt_worker
  | interrupt => exact told_of_same booth.interrupt_worker

theorem attend_settings (booth : Booth) (errand : Errand) :
    (booth.attend errand).worker.settings = booth.worker.settings := by
  cases errand with
  | act act => exact (booth.told_step act).settings
  | launch now consuming => exact (booth.told_launch now consuming).settings
  | measure now =>
    unfold attend Worker.measure
    dsimp only
    split
    next trimmed trims => exact Worker.trim_settings trims
    next => rfl
  | reset now => rfl

theorem attendAll_settings (booth : Booth) (errands : List Errand) :
    (booth.attendAll errands).worker.settings = booth.worker.settings := by
  induction errands generalizing booth with
  | nil => rfl
  | cons errand rest ih => exact (ih (booth.attend errand)).trans (booth.attend_settings errand)

theorem rejection?_cases (now : Moment) (payload : Value) :
    rejection? now payload = none ∨ rejection? now payload = some .failure := by
  unfold rejection?
  split
  next => exact .inl rfl
  next => split <;> simp

theorem time?_of_success {booth : Booth} {errand : Errand} {now : Moment}
    (counted : booth.tally? errand = some (.success now)) : errand.time? = some now.instant := by
  cases errand with
  | act act =>
    cases act with
    | call place time payload =>
      have rejected := rejection?_cases time payload
      simp_all [tally?]
    | receive time payload =>
      have rejected := rejection?_cases time payload
      simp only [tally?] at counted
      split at counted <;> simp_all
    | enter place time =>
      simp only [tally?] at counted
      repeat' split at counted
      all_goals simp at counted
    | finish success time =>
      simp only [tally?, Option.map_eq_some_iff] at counted
      obtain ⟨-, -, same⟩ := counted
      obtain rfl := Tally.success.inj same
      rfl
    | _ => cases counted
  | _ => cases counted

end Booth

section Window

variable {moments : List Moment} {horizon cutoff : Int}

def InTime (moments : List Moment) : Prop :=
  moments.Pairwise fun first later => first.instant <= later.instant

theorem dropWhile_inTime (inTime : InTime moments) (cutoff : Int) :
    moments.dropWhile (fun moment => decide (moment.instant <= cutoff)) =
      moments.filter fun moment => decide (cutoff < moment.instant) := by
  induction moments with
  | nil => rfl
  | cons first rest ih =>
    obtain ⟨least, restInTime⟩ := List.pairwise_cons.mp inTime
    by_cases past : first.instant <= cutoff
    next =>
      rw [List.dropWhile_cons_of_pos (by simpa using past), ih restInTime,
        List.filter_cons_of_neg (by simpa using past)]
    next =>
      -- The first one that stays holds back all after it, which are no earlier.
      have allLater : ∀ moment ∈ first :: rest, decide (cutoff < moment.instant) = true := by
        intro moment member
        rw [decide_eq_true_iff]
        cases member with
        | head => omega
        | tail _ isRest => exact (Int.not_le.mp past).trans_le (least moment isRest)
      rw [List.dropWhile_cons_of_neg (by simpa using past), List.filter_eq_self.mpr allLater]

theorem filter_later (further : horizon <= cutoff) :
    (moments.filter fun moment => decide (horizon < moment.instant)).filter
        (fun moment => decide (cutoff < moment.instant)) =
      moments.filter fun moment => decide (cutoff < moment.instant) := by
  rw [List.filter_filter]
  refine List.filter_congr fun moment _ => ?_
  simp only [Bool.and_eq_left_iff_imp, decide_eq_true_iff]
  omega

end Window

/-- The worker agrees with the record of its attempts up to some time: both counters do, and the
moments that it keeps are those after a horizon that the rate window has not come to yet. -/
structure Metered (settings : WorkerSettings) (since : Int) (record : List Tally)
    (worker : Worker) : Prop where
  sameSettings : worker.settings = settings
  processed : worker.processed = (Tally.successes record).length
  errors : worker.errors = Tally.failures record
  inTime : InTime (Tally.successes record)
  reached : ∀ moment ∈ Tally.successes record, moment.instant <= since
  recent : ∃ horizon, horizon + settings.rateWindow <= since ∧
    worker.recent = (Tally.successes record).filter fun moment => decide (horizon < moment.instant)

namespace Metered

variable {settings : WorkerSettings} {since : Int} {record : List Tally} {worker other : Worker}

theorem of_empty (same : worker.settings = settings) (processed : worker.processed = 0)
    (errors : worker.errors = 0) (recent : worker.recent = []) :
    Metered settings since [] worker where
  sameSettings := same
  processed := processed
  errors := errors
  inTime := List.Pairwise.nil
  reached := by simp [Tally.successes]
  recent := ⟨since - settings.rateWindow, by omega, recent⟩

theorem later (metered : Metered settings since record worker) {time : Int}
    (onward : since <= time) :
    Metered settings time record worker where
  sameSettings := metered.sameSettings
  processed := metered.processed
  errors := metered.errors
  inTime := metered.inTime
  reached moment member := (metered.reached moment member).trans onward
  recent := by
    obtain ⟨horizon, passed, recent⟩ := metered.recent
    exact ⟨horizon, passed.trans onward, recent⟩

theorem of_tallies (metered : Metered settings since record worker)
    (same : worker.Tallies other) : Metered settings since record other where
  sameSettings := same.settings.trans metered.sameSettings
  processed := same.processed.trans metered.processed
  errors := same.errors.trans metered.errors
  inTime := metered.inTime
  reached := metered.reached
  recent := by
    rw [same.recent]
    exact metered.recent

theorem fail (metered : Metered settings since record worker) :
    Metered settings since (record ++ [.failure]) worker.fail where
  sameSettings := metered.sameSettings
  processed := by
    rw [Tally.successes_failure]
    exact metered.processed
  errors := by
    rw [Tally.failures_failure]
    exact congrArg (· + 1) metered.errors
  inTime := by
    rw [Tally.successes_failure]
    exact metered.inTime
  reached := by
    rw [Tally.successes_failure]
    exact metered.reached
  recent := by
    rw [Tally.successes_failure]
    exact metered.recent

theorem count (metered : Metered settings since record worker) (positive : 0 < settings.rateWindow)
    {now : Moment} (onward : since <= now.instant) :
    Metered settings now.instant (record ++ [.success now]) (worker.count now) where
  sameSettings := metered.sameSettings
  processed := by
    rw [Tally.successes_success, List.length_append]
    exact congrArg (· + 1) metered.processed
  errors := by
    rw [Tally.failures_success]
    exact metered.errors
  inTime := by
    rw [Tally.successes_success]
    refine List.pairwise_append.mpr ⟨metered.inTime, List.pairwise_singleton _ _, ?_⟩
    intro moment member last isLast
    obtain rfl := List.mem_singleton.mp isLast
    exact (metered.reached moment member).trans onward
  reached := by
    rw [Tally.successes_success]
    intro moment member
    cases List.mem_append.mp member with
    | inl before => exact (metered.reached moment before).trans onward
    | inr isLast => exact (congrArg Moment.instant (List.mem_singleton.mp isLast)).le
  recent := by
    obtain ⟨horizon, passed, recent⟩ := metered.recent
    refine ⟨horizon, passed.trans onward, ?_⟩
    -- This is where the rate window has to take some time.
    have inWindow : horizon < now.instant := by omega
    rw [Tally.successes_success, List.filter_append, <- recent]
    simp [Worker.count, inWindow]

/-- What is forgotten is what the rate window has left behind, no more and no less. -/
theorem trim (metered : Metered settings since record worker) {now : Moment}
    (onward : since <= now.instant) {trimmed : Worker} (trims : worker.trim now = .ok trimmed) :
    Metered settings now.instant record trimmed ∧
      trimmed.recent = (Tally.successes record).filter fun moment =>
        decide (now.instant - settings.rateWindow < moment.instant) := by
  obtain ⟨horizon, passed, recent⟩ := metered.recent
  unfold Worker.trim at trims
  split at trims
  next => cases trims
  next cutoff shifted =>
    have begins : cutoff.instant = now.instant - settings.rateWindow := by
      rw [Moment.instant_of_add? shifted, metered.sameSettings]
      omega
    have kept : worker.recent.dropWhile (fun moment => decide (moment.instant <= cutoff.instant)) =
        (Tally.successes record).filter fun moment =>
          decide (now.instant - settings.rateWindow < moment.instant) := by
      rw [recent, dropWhile_inTime (metered.inTime.filter _), filter_later (by omega), begins]
    cases trims
    exact
      ⟨{ metered.later onward with recent := ⟨now.instant - settings.rateWindow, by omega, kept⟩ },
        kept⟩

theorem conclude (metered : Metered settings since record worker)
    (positive : 0 < settings.rateWindow) {now : Moment} (onward : since <= now.instant)
    (alerts : List Alert) :
    Metered settings now.instant (record ++ [.success now]) (worker.conclude now alerts).1 := by
  have counted := metered.count positive onward
  unfold Worker.conclude
  dsimp only
  split
  next trimmed trims => exact (counted.trim (Int.le_refl _) trims).1
  next => exact counted

theorem measure (metered : Metered settings since record worker) {now : Moment}
    (onward : since <= now.instant) :
    Metered settings now.instant record (worker.measure now).1 := by
  unfold Worker.measure
  split
  next trimmed trims => exact (metered.trim onward trims).1
  next => exact metered.later onward

theorem told (metered : Metered settings since record worker) (positive : 0 < settings.rateWindow)
    {time : Int} (onward : since <= time) {tally : Option Tally}
    (counted : ∀ now, tally = some (.success now) -> now.instant = time)
    (told : worker.Told tally other) :
    Metered settings time (record ++ tally.toList) other := by
  cases told with
  | nothing same => simpa using (metered.later onward).of_tallies same
  | failed same => exact ((metered.later onward).of_tallies same).fail
  | counted same now alerts =>
    obtain rfl := counted now rfl
    exact (metered.of_tallies same).conclude positive onward alerts

theorem attend {booth : Booth} (metered : Metered settings since record booth.worker)
    (positive : 0 < settings.rateWindow) (errand : Errand)
    (onward : ∀ time ∈ errand.time?, since <= time) :
    Metered settings (errand.time?.getD since) (booth.recordAfter record errand)
      (booth.attend errand).worker := by
  have reached : since <= errand.time?.getD since := by
    cases shows : errand.time? with
    | none => exact Int.le_refl _
    | some time => exact onward time shows
  have counted : ∀ now, booth.tally? errand = some (.success now) ->
      now.instant = errand.time?.getD since := by
    intro now success
    rw [Booth.time?_of_success success, Option.getD_some]
  cases errand with
  | act act => exact metered.told positive reached counted (booth.told_step act)
  | launch now consuming =>
    exact metered.told positive reached counted (booth.told_launch now consuming)
  | measure now =>
    have unchanged : booth.recordAfter record (.measure now) = record := List.append_nil record
    rw [unchanged]
    exact metered.measure (onward now.instant rfl)
  | reset now => exact of_empty metered.sameSettings rfl rfl rfl

theorem run {booth : Booth} (metered : Metered settings since record booth.worker)
    (positive : 0 < settings.rateWindow) (errands : List Errand) {now : Moment}
    (onward : Onward Errand.time? since (errands ++ [.measure now])) :
    ∃ before, before <= now.instant ∧
      Metered settings before (booth.recordOf record errands) (booth.attendAll errands).worker := by
  -- Every errand leaves the worker in agreement with the longer record, at the time of the errand.
  induction errands generalizing booth since record with
  | nil => exact ⟨since, onward.head now.instant rfl, metered⟩
  | cons errand rest ih => exact ih (metered.attend positive errand onward.head) onward.tail

end Metered

namespace Booth

/-- The numbers that a worker shows come to the same as the record of its attempts. It shows them
unless the rate window reaches back before the calendar; then it is left as it was. -/
theorem measured_by_record (settings : WorkerSettings) (rules : RuleStore) (evaluators : Evaluators)
    (sink : Sink) (dispatcher : Delivery.Dispatcher) (positive : 0 < settings.rateWindow)
    (errands : List Errand) (now : Moment)
    (ordered : InOrder Errand.time? (errands ++ [.measure now])) :
    let first := start (.create settings rules evaluators sink dispatcher) false
    let worker := (first.attendAll errands).worker
    let record := first.recordOf [] errands
    let successes := Tally.successes record
    let failures := Tally.failures record
    let counted := successes.filter fun moment =>
      decide (now.instant - settings.rateWindow < moment.instant ∧ moment.instant <= now.instant)
    let (measured, outcome) := worker.measure now
    worker.processed = successes.length ∧ worker.errors = failures ∧
    ((∃ metrics, outcome = .ok metrics) ↔
      inCalendar (now.wall - settings.rateWindow) = true) ∧
    (∀ metrics, outcome = .ok metrics ->
      measured.recent = counted ∧
      metrics.perSecond = Worker.rate counted.length (spanSeconds settings.rateWindow) ∧
      metrics.processed = successes.length ∧ metrics.errors = failures ∧
      metrics.successRate = Worker.successRate successes.length failures) ∧
    (∀ fault, outcome = .error fault -> fault = .rateWindow ∧ measured = worker) := by
  intro first worker record successes failures counted
  obtain ⟨since, begun⟩ := ordered.onward
  have begins : Metered settings since [] first.worker := .of_empty rfl rfl rfl rfl
  obtain ⟨before, reached, metered⟩ := begins.run positive errands begun
  have metered : Metered settings before record worker := metered
  cases worker.trim_cases now with
  | inl inside =>
    obtain ⟨inside, trimmed, trims, -⟩ := inside
    obtain ⟨still, recent⟩ := metered.trim reached trims
    have sameWindow := still.sameSettings
    obtain ⟨metrics, measures, perSecond, processed, errors, successRate⟩ :=
      Worker.measure_ok (by rwa [sameWindow]) trims
    -- No event in the record is later than now, so that the upper end of the window cuts nothing.
    have allCounted : trimmed.recent = counted := by
      rw [recent]
      refine List.filter_congr fun moment member => ?_
      simp [(metered.reached moment member).trans reached]
    rw [measures]
    refine ⟨metered.processed, metered.errors, iff_of_true ⟨metrics, rfl⟩ ?_, ?_, nofun⟩
    next => rwa [metered.sameSettings] at inside
    next =>
      intro shown same
      obtain rfl := Except.ok.inj same
      rw [sameWindow, allCounted] at perSecond
      rw [still.processed, still.errors] at successRate
      exact ⟨allCounted, perSecond, processed.trans still.processed, errors.trans still.errors,
        successRate⟩
  | inr outside =>
    obtain ⟨outside, trims⟩ := outside
    rw [metered.sameSettings] at outside
    rw [Worker.measure_error trims]
    refine ⟨metered.processed, metered.errors, iff_of_false nofun (by simp [outside]), nofun, ?_⟩
    intro fault same
    exact ⟨(Except.error.inj same).symm, rfl⟩

/-- Two events a minute apart and something that is none: when the window is a minute, only the
later event is in it. -/
def minuteApart : List Errand :=
  let payload : Value := .mapping [("device_id", .text "d1"), ("sensor_type", .text "mq134")]
  [.launch (universal 0) false, .act (.call 0 (universal 0) payload),
    .act (.enter 0 (universal 0)), .act (.finish true (universal 0)),
    .act (.call 0 (universal minute) payload), .act (.call 0 (universal minute) .null),
    .act (.enter 0 (universal minute)), .act (.finish true (universal minute))]

theorem measured_minuteApart :
    let settings := Worker.fresh.settings
    let later := universal (minute + second)
    0 < settings.rateWindow ∧ InOrder Errand.time? (minuteApart ++ [.measure later]) ∧
      let worker := ((start Worker.fresh false).attendAll minuteApart).worker
      let (measured, outcome) := worker.measure later
      ∃ metrics, outcome = .ok metrics ∧ measured.recent = [universal minute] ∧
        metrics.processed = 2 ∧ metrics.errors = 1 := by
  have positive : 0 < Worker.fresh.settings.rateWindow := by decide
  have ordered :
      InOrder Errand.time? (minuteApart ++ [.measure (universal (minute + second))]) := by
    unfold InOrder
    decide
  obtain ⟨-, -, shown, counts, -⟩ :=
    measured_by_record Worker.fresh.settings Worker.fresh.rules Worker.fresh.evaluators
      Worker.fresh.sink Worker.fresh.dispatcher positive minuteApart _ ordered
  obtain ⟨metrics, same⟩ := shown.mpr (by decide)
  obtain ⟨recent, -, processed, errors, -⟩ := counts metrics same
  refine ⟨positive, ordered, metrics, same, recent.trans ?_, processed.trans ?_, errors.trans ?_⟩
  next => decide +kernel
  next => decide +kernel
  next => decide +kernel

/-- A rate window of more than three thousand years is a span of time, but not one that the numbers
can be shown for. -/
theorem unmeasured_millennia :
    let rateWindow := 100000000000 * second
    let worker := { Worker.fresh with settings := { Worker.fresh.settings with rateWindow } }
    0 < rateWindow ∧ checkSpan rateWindow = .ok rateWindow ∧
      (worker.measure (universal 0)).2 = .error .rateWindow :=
  ⟨by decide, by decide, rfl⟩

end Booth

end SensorAlerting
