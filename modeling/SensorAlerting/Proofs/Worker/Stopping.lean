import SensorAlerting.Proofs.Delivery.Draining
import SensorAlerting.Proofs.Delivery.Waiting
import SensorAlerting.Proofs.Worker.Accounting
import SensorAlerting.Worker.Timeline

set_option autoImplicit false

/-!
Stopping a plant. Consumer and look-out end at once, whatever is queued. Then the end of the source
is marked, and only after that the dispatcher is given time for what it holds: what was accepted and
has not been handed over yet, which is what waits in its queue. A source without a place for the mark
ends the stop halfway, and the dispatcher is never told to end.
-/

namespace SensorAlerting

open SensorAlerting.Delivery SensorAlerting.Number SensorAlerting.Time

namespace Delivery

namespace Traffic

def handedBy : Traffic -> List Act -> List Submission
  | _, [] => []
  | traffic, act :: rest => (traffic.taken? act).toList ++ handedBy (traffic.step act) rest

theorem queue_handed (traffic : Traffic) (acts : List Act) :
    traffic.dispatcher.queue <+:
      traffic.handedBy acts ++ (traffic.run acts).dispatcher.queue := by
  induction acts generalizing traffic with
  | nil => exact List.prefix_rfl
  | cons act rest ih =>
    have served : traffic.dispatcher.queue <+:
        (traffic.taken? act).toList ++ (traffic.step act).dispatcher.queue :=
      ⟨_, (traffic.serves_step act).queue⟩
    refine served.trans ?_
    rw [handedBy, List.append_assoc]
    exact (List.prefix_append_right_inj _).mpr (ih (traffic.step act))

end Traffic

namespace Dispatcher

theorem isDrained_iff {dispatcher : Dispatcher} :
    dispatcher.isDrained = true ↔ dispatcher.queue = [] ∧ dispatcher.current = none := by
  simp [isDrained]

/-- A dispatcher that is ended at some moment after all that it held has been handed over, in order,
and settled. -/
def EndsDrained (now : Moment) (first last : Dispatcher) : Prop :=
  ∃ acts, (∀ act ∈ acts, ∀ time ∈ Act.time? act, time = now.instant) ∧
    first.queue <+: Traffic.handedBy ⟨first, [], []⟩ acts ∧
    (Traffic.run ⟨first, [], []⟩ acts).dispatcher.isDrained = true ∧
    last = (Traffic.run ⟨first, [], []⟩ acts).dispatcher.cancel

theorem isDrained_settleFirst {dispatcher : Dispatcher} (drained : dispatcher.isDrained = true)
    (now : Moment) (time : Int) (comesFirst : Flight -> Bool) :
    (dispatcher.settleFirst now time comesFirst).isDrained = true := by
  obtain ⟨empty, free⟩ := isDrained_iff.mp drained
  unfold settleFirst
  split
  next => exact drained
  next => simp [free, empty, consume, isDrained]

end Dispatcher

namespace Station

variable {station between : Station} {now : Moment}

theorem endsDrained (free : station.direct = none) (leads : station.Leads now between)
    (drained : between.dispatcher.isDrained = true) :
    station.dispatcher.EndsDrained now between.dispatcher.cancel := by
  obtain ⟨later, acts, timed, reached⟩ := leads []
  have begins : station.traffic [] = ⟨station.dispatcher, [], []⟩ := by
    rw [traffic, free]
    rfl
  rw [begins] at reached
  have handed := Traffic.queue_handed ⟨station.dispatcher, [], []⟩ acts
  have there : (Traffic.run ⟨station.dispatcher, [], []⟩ acts).dispatcher = between.dispatcher :=
    congrArg Traffic.dispatcher reached
  rw [there, (Dispatcher.isDrained_iff.mp drained).1, List.append_nil] at handed
  exact ⟨acts, timed, handed, there ▸ drained, by rw [there]⟩

theorem drained_or_overdue (station : Station) (limit : Int) :
    let last := station.drain now (some limit)
    last.dispatcher.isDrained = true ∨ limit < reach last.time := by
  obtain ⟨time, waited, same, -, ended⟩ :=
    @waitFor_spec now (station.settle now) (fun station => station.dispatcher.isDrained)
      (some limit) (fun _ => True) (fun _ _ _ _ => trivial) trivial
  dsimp only
  rw [drain, same]
  cases ended with
  | reached there => exact .inl (Dispatcher.isDrained_settleFirst there now time _)
  | quiet nothing unlimited => cases unlimited
  | overdue last isLimit passed =>
    obtain rfl := Option.some.inj isLimit
    exact .inr passed

end Station

end Delivery

namespace PayloadQueue

variable (queue : PayloadQueue)

/-- Whether the end of a queue can be marked: it has been, or there is a place. -/
def IsMarkable : Prop := queue.closed = true ∨ queue.isFull = false

theorem close_closed : queue.close.1.closed = true := by
  unfold close
  split
  next closed => exact closed
  next =>
    dsimp only
    split
    next marked put =>
      unfold put? at put
      split at put
      next => cases put
      next => rw [<- Option.some.inj put]
    next => rfl

theorem close_marked : queue.close.2 = true ↔ queue.IsMarkable := by
  have sameFull : { queue with closed := true }.isFull = queue.isFull := rfl
  unfold close IsMarkable put?
  dsimp only
  rw [sameFull]
  cases queue.closed <;> cases queue.isFull <;> simp

end PayloadQueue

/-- Whether the rates of a worker can be stated: its rate window takes some time, and begins after
the calendar does. -/
def Worker.IsRated (worker : Worker) (now : Moment) : Prop :=
  worker.settings.rateWindow ≠ 0 ∧ (now.add? (-worker.settings.rateWindow)).isSome = true

theorem Worker.metrics_isOk (worker : Worker) (now : Moment) :
    (∃ metrics, worker.metrics now = .ok metrics) ↔ worker.IsRated now := by
  unfold metrics trim IsRated
  cases now.add? (-worker.settings.rateWindow) with
  | none => simp [bind, Except.bind]
  | some cutoff =>
    by_cases empty : worker.settings.rateWindow = 0 <;>
      simp [bind, Except.bind, empty, throw, throwThe, MonadExceptOf.throw]

namespace Plant

variable {plant : Plant} {now : Moment}

def station (plant : Plant) : Station :=
  { Station.start plant.worker.dispatcher with time := plant.time }

/-- When the dispatcher of a plant that is stopped is given no more time. -/
def drainLimit (plant : Plant) : Int := after plant.time (30 * wholeSecond)

theorem limit_drainSeconds : Limit.ofValue drainSeconds = .upTo (some (30 * wholeSecond)) := by
  decide +kernel

theorem stopDispatcher_eq {last : Station}
    (stopped : plant.station.stop now drainSeconds = .ok last) :
    plant.stopDispatcher now =
      { plant with
        time := last.time
        worker := { plant.worker with dispatcher := last.dispatcher } } := by
  unfold stopDispatcher
  dsimp only
  split
  next other isOther =>
    obtain rfl : last = other := Except.ok.inj (stopped.symm.trans isOther)
    rfl
  next misuse isError => cases stopped.symm.trans isError

theorem stopDispatcher_spec (plant : Plant) (now : Moment) :
    ∃ between, plant.station.Leads now between ∧
      plant.stopDispatcher now =
        { plant with
          time := between.time
          worker := { plant.worker with dispatcher := between.dispatcher.cancel } } ∧
      (plant.worker.dispatcher.running = true ->
        between.dispatcher.isDrained = true ∨ plant.drainLimit < reach between.time) := by
  cases running : plant.worker.dispatcher.running with
  | false =>
    have stopped : plant.station.stop now drainSeconds = .ok plant.station.cancel := by
      simp [Station.stop, station, Station.start, running]
    exact ⟨plant.station, .refl, stopDispatcher_eq stopped, nofun⟩
  | true =>
    let between := plant.station.drain now (some plant.drainLimit)
    have stopped : plant.station.stop now drainSeconds = .ok between.cancel := by
      have isRunning : ¬ (!plant.station.dispatcher.running) = true := by
        simp [station, Station.start, running]
      rw [Station.stop, if_neg isRunning, limit_drainSeconds]
      rfl
    exact ⟨between, plant.station.leads_drain _, stopDispatcher_eq stopped,
      fun _ => plant.station.drained_or_overdue _⟩

structure Halted (plant last : Plant) : Prop where
  worker : last.worker.running = false
  consumer : last.consumer = .absent
  lookout : last.checkDue = none
  source : plant.attached = true -> last.queue.closed = true

def halt (plant : Plant) : Plant :=
  { plant with
    worker := { plant.worker with running := false }
    queue := if plant.attached then plant.queue.close.1 else plant.queue
    consumer := .absent
    checkDue := none }

def rateFault (worker : Worker) (now : Moment) : Option StopFault :=
  match worker.metrics now with
  | .ok _ => none
  | .error fault => some (.metrics fault)

theorem rateFault_eq_none {worker : Worker} : rateFault worker now = none ↔ worker.IsRated now := by
  rw [<- worker.metrics_isOk now, rateFault]
  cases worker.metrics now <;> simp

theorem stop_eq (running : plant.worker.running = true) :
    plant.stop now =
      if plant.attached = true ∧ plant.queue.close.2 = false then (plant.halt, some .queueFull)
      else
        let last := { plant.halt with attached := false }.stopDispatcher now
        (last, rateFault last.worker now) := by
  have going : ¬ (!plant.worker.running) = true := by simp [running]
  rw [stop, if_neg going, halt]
  cases plant.attached with
  | false => rfl
  | true =>
    generalize plant.queue.close = closing
    obtain ⟨queue, marked⟩ := closing
    cases marked <;> rfl

/-- Whether the end of what a plant consumes can be marked. -/
def IsClosable (plant : Plant) : Prop := plant.attached = true -> plant.queue.IsMarkable

theorem not_isClosable :
    ¬ plant.IsClosable ↔ plant.attached = true ∧ plant.queue.close.2 = false := by
  rw [IsClosable, Classical.not_imp, <- plant.queue.close_marked, Bool.not_eq_true]

/-- A stop ends consumer, look-out and source in any case. It goes on to the dispatcher just if the
end of the source can be marked: then the dispatcher ends, after all that it held has been handed
over and settled unless time runs out. Otherwise it fails, the dispatcher goes on, and no later stop
does anything. Past the dispatcher it fails just if the rates of the worker cannot be stated. -/
theorem stop_drains (plant : Plant) (now : Moment) (running : plant.worker.running = true) :
    let (last, fault) := plant.stop now
    plant.Halted last ∧
    (fault = none ↔ plant.IsClosable ∧ plant.worker.IsRated now) ∧
    (plant.IsClosable ->
      last.worker.dispatcher.running = false ∧ last.worker.dispatcher.current = none ∧
        (plant.worker.dispatcher.running = true ->
          plant.worker.dispatcher.EndsDrained now last.worker.dispatcher ∨
            plant.drainLimit < reach last.time)) ∧
    (¬ plant.IsClosable ->
      fault = some .queueFull ∧ last.worker.dispatcher = plant.worker.dispatcher ∧
        ∀ later, last.stop later = (last, none)) := by
  have source : plant.attached = true -> plant.halt.queue.closed = true := by
    intro attached
    simp [halt, attached, PayloadQueue.close_closed]
  rw [stop_eq running]
  by_cases closable : plant.IsClosable
  next =>
    rw [if_neg fun blocked => not_isClosable.mpr blocked closable]
    obtain ⟨between, leads, same, drained⟩ :=
      { plant.halt with attached := false }.stopDispatcher_spec now
    dsimp only
    rw [same]
    refine ⟨⟨rfl, rfl, rfl, source⟩, ?_, fun _ => ⟨rfl, rfl, fun going => ?_⟩,
      fun blocked => absurd closable blocked⟩
    next =>
      rw [rateFault_eq_none]
      exact (and_iff_right closable).symm
    next => exact (drained going).imp_left (Station.endsDrained rfl leads)
  next =>
    rw [if_pos (not_isClosable.mp closable)]
    refine ⟨⟨rfl, rfl, rfl, source⟩, ?_, fun marks => absurd marks closable,
      fun _ => ⟨rfl, rfl, ?_⟩⟩
    next => exact iff_of_false nofun fun both => closable both.1
    next => exact fun _ => rfl

def laden (capacity rateWindow : Int) : Plant :=
  let horn := Channel.plain "horn" { delay := 2 * wholeSecond, reply := some (.accepted .null) }
  let dispatcher := (Dispatcher.create narrow [("horn", horn)]).submit (fire "smoke" [.text "horn"])
  let settings := { Worker.fresh.settings with rateWindow }
  let queue := { PayloadQueue.create capacity 0 with items := [some (.mapping [])] }
  (Plant.create { Worker.fresh with settings, dispatcher } queue).start (universal 0) true

theorem stop_drains_laden :
    (laden 2 minute).worker.running = true ∧
      let (last, fault) := (laden 2 minute).stop (universal 0)
      fault = none ∧ (laden 2 minute).Halted last ∧
        (laden 2 minute).worker.dispatcher.EndsDrained (universal 0) last.worker.dispatcher := by
  have running : (laden 2 minute).worker.running = true := by decide +kernel
  obtain ⟨halted, normal, drains, -⟩ := stop_drains (laden 2 minute) (universal 0) running
  have closable : (laden 2 minute).IsClosable := fun _ => .inr (by decide +kernel)
  have rated : (laden 2 minute).worker.IsRated (universal 0) :=
    ⟨by decide +kernel, by decide +kernel⟩
  obtain ⟨-, -, drained⟩ := drains closable
  refine ⟨running, normal.mpr ⟨closable, rated⟩, halted, ?_⟩
  exact (drained (by decide +kernel)).resolve_right (by decide +kernel)

/-- A full source keeps the alert of its plant from being delivered, and the dispatcher running. A
rate window of no time makes a stop fail that has ended everything. -/
theorem stop_fails :
    let (full, fullFault) := (laden 1 minute).stop (universal 0)
    let (unrated, unratedFault) := (laden 2 0).stop (universal 0)
    (fullFault = some .queueFull ∧ full.worker.running = false ∧
        full.worker.dispatcher.running = true ∧ full.worker.dispatcher.pending = 1) ∧
      unratedFault = some (.metrics .emptyRateWindow) ∧ unrated.worker.dispatcher.pending = 0 := by
  decide +kernel

end Plant

end SensorAlerting
