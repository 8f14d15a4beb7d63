import SensorAlerting.Proofs.Delivery.Traffic

set_option autoImplicit false

/-!
Every operation of a station is a run of acts at one moment: the order in which a station lets its
deliveries go on is one of those that traffic allows.
-/

namespace SensorAlerting.Delivery

open SensorAlerting.Number SensorAlerting.Time

/-- Whether traffic leads to other traffic by acts at one moment. -/
def Traffic.Leads (now : Moment) (first last : Traffic) : Prop :=
  ∃ acts, (∀ act ∈ acts, ∀ time ∈ Act.time? act, time = now.instant) ∧ first.run acts = last

namespace Traffic.Leads

variable {now : Moment} {first next last : Traffic}

theorem refl : Leads now first first := ⟨[], by simp, rfl⟩

theorem trans (before : Leads now first next) (after : Leads now next last) :
    Leads now first last := by
  obtain ⟨acts, timed, rfl⟩ := before
  obtain ⟨others, timedOthers, rfl⟩ := after
  refine ⟨acts ++ others, fun act member => ?_, by simp [run]⟩
  cases List.mem_append.mp member with
  | inl early => exact timed act early
  | inr late => exact timedOthers act late

theorem act (act : Act) (timed : ∀ time ∈ act.time?, time = now.instant)
    (onward : Leads now (first.step act) last) : Leads now first last :=
  trans ⟨[act], by simpa using timed, rfl⟩ onward

end Traffic.Leads

namespace Dispatcher

theorem begin_queue (dispatcher : Dispatcher) (call : Call) (queue : List Submission) :
    call.begin { dispatcher with queue } =
      ({ (call.begin dispatcher).1 with queue }, (call.begin dispatcher).2) := by
  have same : ({ dispatcher with queue }.purge call.now).isDuplicate call.now call.alert =
      (dispatcher.purge call.now).isDuplicate call.now call.alert := rfl
  simp only [Call.begin, Dispatcher.begin, same]
  split
  next => rfl
  next => cases requestedNames call.channels <;> rfl

theorem begin_consumer (dispatcher : Dispatcher) (call : Call) :
    (call.begin dispatcher).1.running = dispatcher.running ∧
      (call.begin dispatcher).1.current = dispatcher.current := by
  simp only [Call.begin, Dispatcher.begin]
  split
  next => exact ⟨rfl, rfl⟩
  next => cases requestedNames call.channels <;> exact ⟨rfl, rfl⟩

variable {now : Moment} {time : Int} {comesFirst : Flight -> Bool} {direct : List Flight}

theorem delivered_of_arrived {flight : Flight} {delivered : List Delivered}
    (arrived : arrived? comesFirst flight = some delivered) :
    flight.delivered? = some delivered := by
  unfold arrived? at arrived
  split at arrived
  next => exact arrived
  next => cases arrived

theorem leads_land (now : Moment) (time : Int) (direct : List Flight) (dispatcher : Dispatcher)
    (flight : Flight) (notices : List Notice) :
    Traffic.Leads now ⟨{ dispatcher with current := some flight }, direct, notices⟩
      ⟨{ dispatcher with current := some (flight.land time now) }, direct, notices⟩ :=
  .act (.landCurrent time now) (by simp [Act.time?]) .refl

theorem leads_arrive (direct : List Flight) (dispatcher : Dispatcher) {flight : Flight}
    {delivered : List Delivered} (notices : List Notice)
    (arrived : arrived? comesFirst (flight.land time now) = some delivered) :
    Traffic.Leads now ⟨{ dispatcher with current := some flight }, direct, notices⟩
      ⟨{ dispatcher with current := none }.record delivered, direct, notices⟩ := by
  refine (leads_land now time direct dispatcher flight notices).trans ?_
  refine .act .finishCurrent (by simp [Act.time?]) ?_
  have delivered := delivered_of_arrived arrived
  simp only [Traffic.step, Traffic.perform, Traffic.call?, Traffic.arrive, Option.map_some,
    Option.bind_some, delivered]
  exact .refl

theorem leads_take {dispatcher after : Dispatcher} {submission : Submission}
    {start : Point} {outcome : Begun} (rest : List Submission) (notices : List Notice)
    (running : dispatcher.running = true) (free : dispatcher.current = none)
    (begun : dispatcher.begin now start submission.alert (.list submission.channels) =
      (after, outcome)) :
    ∃ notice, Traffic.Leads now ⟨{ dispatcher with queue := submission :: rest }, direct, notices⟩
      ⟨match outcome with
        | .started flight => { after with queue := rest, current := some flight }
        | _ => { after with queue := rest }, direct, notice :: notices⟩ := by
  let call : Call :=
    { now, start, alert := submission.alert, channels := .list submission.channels }
  let traffic : Traffic := ⟨{ dispatcher with queue := submission :: rest }, direct, notices⟩
  have calls : traffic.call? (.take now start) = some call := by
    simp [Traffic.call?, traffic, running, free, call]
  have same : call.begin dispatcher = (after, outcome) := begun
  have taken : traffic.step (.take now start) =
      { traffic.beginQueued call with
        notices := call.notice traffic.dispatcher :: traffic.notices } := by
    simp [Traffic.step, Traffic.perform, calls]
  simp only [Traffic.beginQueued, traffic, begin_queue, same, List.tail_cons] at taken
  refine ⟨call.notice traffic.dispatcher, .act (.take now start) (by simp [Act.time?]) ?_⟩
  rw [taken]
  cases outcome <;> exact .refl

theorem leads_consume {dispatcher : Dispatcher} {turn : Nat} {submissions : List Submission}
    {notices : List Notice} (running : dispatcher.running = true)
    (free : dispatcher.current = none) :
    ∃ later, Traffic.Leads now ⟨{ dispatcher with queue := submissions }, direct, notices⟩
      ⟨consume now time comesFirst turn dispatcher submissions, direct, later⟩ := by
  induction submissions generalizing dispatcher turn notices with
  | nil => exact ⟨notices, .refl⟩
  | cons submission rest ih =>
    cases begun : dispatcher.begin now ⟨time, turn⟩ submission.alert
        (.list submission.channels) with
    | mk after outcome =>
      obtain ⟨notice, taken⟩ := leads_take rest notices running free begun
      have consumer := dispatcher.begin_consumer
        ⟨now, ⟨time, turn⟩, submission.alert, .list submission.channels⟩
      simp only [Call.begin, begun, running, free] at consumer
      obtain ⟨keepsRunning, staysFree⟩ := consumer
      simp only [consume, begun]
      -- Only a delivery that starts may keep the consumer busy.
      cases outcome with
      | duplicate =>
        obtain ⟨later, onward⟩ := ih keepsRunning staysFree
        exact ⟨later, taken.trans onward⟩
      | misused misuse =>
        obtain ⟨later, onward⟩ := ih keepsRunning staysFree
        exact ⟨later, taken.trans onward⟩
      | started flight =>
        dsimp only at taken ⊢
        cases arrived : arrived? comesFirst (flight.land time now) with
        | none =>
          have landing := leads_land now time direct { after with queue := rest } flight
          exact ⟨notice :: notices, taken.trans (landing _)⟩
        | some delivered =>
          let recorded := after.record delivered
          obtain ⟨later, onward⟩ : ∃ later,
              Traffic.Leads now ⟨{ recorded with queue := rest }, direct, notice :: notices⟩
                ⟨consume now time comesFirst (flight.land time now).turn recorded rest, direct,
                  later⟩ :=
            ih keepsRunning staysFree
          have arriving := leads_arrive direct { after with queue := rest } (notice :: notices)
            arrived
          refine ⟨later, taken.trans (arriving.trans ?_)⟩
          simpa [recorded, Dispatcher.record, staysFree] using onward

theorem leads_settleFirst (dispatcher : Dispatcher) (now : Moment) (time : Int)
    (comesFirst : Flight -> Bool) (direct : List Flight) (notices : List Notice) :
    ∃ later, Traffic.Leads now ⟨dispatcher, direct, notices⟩
      ⟨dispatcher.settleFirst now time comesFirst, direct, later⟩ := by
  unfold settleFirst
  split
  next => exact ⟨notices, .refl⟩
  next going =>
    have running : dispatcher.running = true := by simpa using going
    cases busy : dispatcher.current with
    | none => exact leads_consume running busy
    | some flight =>
      have same : dispatcher = { dispatcher with current := some flight } := by rw [<- busy]
      dsimp only
      cases arrived : arrived? comesFirst (flight.land time now) with
      | none =>
        refine ⟨notices, ?_⟩
        have landing := leads_land now time direct dispatcher flight notices
        rwa [<- same] at landing
      | some delivered =>
        let recorded := { dispatcher with current := none }.record delivered
        obtain ⟨later, onward⟩ : ∃ later, Traffic.Leads now ⟨recorded, direct, notices⟩
            ⟨consume now time comesFirst (flight.land time now).turn recorded dispatcher.queue,
              direct, later⟩ :=
          leads_consume (show recorded.running = true from running) rfl
        have arriving := leads_arrive direct dispatcher notices arrived
        rw [<- same] at arriving
        exact ⟨later, arriving.trans onward⟩

end Dispatcher

namespace Station

def traffic (station : Station) (notices : List Notice) : Traffic :=
  { dispatcher := station.dispatcher, direct := station.direct.toList, notices }

def Leads (now : Moment) (first last : Station) : Prop :=
  ∀ notices, ∃ later, Traffic.Leads now (first.traffic notices) (last.traffic later)

variable {now : Moment} {first next last : Station}

theorem Leads.refl : Leads now first first := fun notices => ⟨notices, .refl⟩

theorem Leads.trans (before : Leads now first next) (after : Leads now next last) :
    Leads now first last := by
  intro notices
  obtain ⟨between, early⟩ := before notices
  obtain ⟨later, late⟩ := after between
  exact ⟨later, early.trans late⟩

theorem Leads.congr (leads : Leads now first next)
    (sameDispatcher : next.dispatcher = last.dispatcher)
    (sameDirect : next.direct = last.direct) : Leads now first last := by
  intro notices
  obtain ⟨later, onward⟩ := leads notices
  exact ⟨later, by simpa [traffic, sameDispatcher, sameDirect] using onward⟩

theorem leads_wake (station : Station) (time : Int) :
    Leads now station (station.wake now time) := by
  intro notices
  -- What is on its way directly lands first, and is recorded among the deliveries of the queue.
  have landed : Traffic.Leads now (station.traffic notices)
      ⟨station.dispatcher, (station.direct.map (Flight.land time now)).toList, notices⟩ := by
    refine .act (.land 0 time now) (by simp [Act.time?]) ?_
    cases direct : station.direct <;>
      simpa [traffic, direct, Traffic.step, Traffic.perform, Traffic.call?] using .refl
  unfold wake
  dsimp only
  cases landing : (station.direct.map (Flight.land time now)).bind Flight.delivered? with
  | none =>
    obtain ⟨later, onward⟩ :=
      station.dispatcher.leads_settleFirst now time (fun _ => true) _ notices
    exact ⟨later, landed.trans onward⟩
  | some delivered =>
    obtain ⟨flight, direct, arrived⟩ := Option.bind_eq_some_iff.mp landing
    rw [direct, Option.toList_some] at landed
    let comesFirst (other : Flight) : Bool := (some flight).all other.isAheadOf
    let earlier := station.dispatcher.settleFirst now time comesFirst
    obtain ⟨between, before⟩ :=
      station.dispatcher.leads_settleFirst now time comesFirst [flight] notices
    have finished : Traffic.step ⟨earlier, [flight], between⟩ (.finish 0) =
        ⟨earlier.record delivered, [], between⟩ := by
      simp [Traffic.step, Traffic.perform, Traffic.call?, Traffic.arrive, arrived]
    obtain ⟨later, after⟩ :=
      (earlier.record delivered).leads_settleFirst now time (fun _ => true) [] between
    refine ⟨later, landed.trans (before.trans ?_)⟩
    refine .act (.finish 0) (by simp [Act.time?]) ?_
    rw [finished, direct]
    exact after

theorem leads_settle (station : Station) : Leads now station (station.settle now) :=
  leads_wake station station.time

theorem leads_runUntil (station : Station) (reached : Station -> Bool) (limit : Option Int)
    (fuel : Nat) (time : Int) :
    Leads now station ((agenda now).runUntil reached limit fuel time station).2 := by
  induction fuel generalizing time station with
  | zero => exact .refl
  | succ fuel ih =>
    unfold Agenda.runUntil
    split
    next => exact .refl
    next =>
      split
      next => exact .refl
      next due _ =>
        dsimp only
        split
        next => exact .refl
        next => exact (leads_wake station _).trans (ih _ _)

theorem leads_waitFor (station : Station) (reached : Station -> Bool) (limit : Option Int) :
    Leads now station (station.waitFor now reached limit) :=
  (leads_runUntil station reached limit (station.load + 1) station.time).congr rfl rfl

theorem leads_runThrough (station : Station) (target time : Int) :
    Leads now station ((agenda now).runThrough target time station).2 := by
  let woken := (agenda now).runUntil (fun _ => false) (some target) Agenda.patience time station
  have onward : Leads now station (woken.2.wake now woken.1) :=
    (leads_runUntil station _ _ _ time).trans (leads_wake woken.2 woken.1)
  exact onward

theorem leads_sleep {station last : Station} {seconds : Value}
    (slept : station.sleep now seconds = .ok last) : Leads now station last := by
  unfold sleep at slept
  cases asked : seconds.asQuantity with
  | error misuse => simp [asked, bind, Except.bind] at slept
  | ok amount =>
    cases wait : (waitOf amount).mapError Misuse.ofFault with
    | error misuse => simp [asked, wait, bind, Except.bind] at slept
    | ok span =>
      simp only [asked, wait, bind, Except.bind] at slept
      cases span with
      | none =>
        obtain rfl : station = last := by simpa using slept
        exact .refl
      | some span =>
        obtain rfl := Except.ok.inj slept
        exact (leads_runThrough station (after station.time (max 0 span)) _).congr rfl rfl

theorem leads_abandon (station : Station) : Leads now station { station with direct := none } := by
  intro notices
  refine ⟨notices, .act (.abandon 0) (by simp [Act.time?]) ?_⟩
  cases direct : station.direct <;>
    simpa [traffic, direct, Traffic.step, Traffic.perform, Traffic.call?] using .refl

theorem leads_notify (station : Station) (alert : Alert) (channels : Value)
    (free : station.direct = none) :
    Leads now station (station.notify now alert channels).1 := by
  let call : Call := { now, start := ⟨station.time, 0⟩, alert, channels }
  have begins : ∀ first : Station,
      (∀ notices, ((station.traffic notices).beginDirect call).dispatcher = first.dispatcher ∧
        ((station.traffic notices).beginDirect call).direct = first.direct.toList) ->
      Leads now station first := by
    intro first same notices
    refine ⟨call.notice station.dispatcher :: notices, .act (.notify call) ?_ ?_⟩
    next => simp [Act.time?, call]
    obtain ⟨sameDispatcher, sameDirect⟩ := same notices
    simp only [Traffic.step, Traffic.perform, Traffic.call?, sameDispatcher, sameDirect]
    exact .refl
  unfold notify
  dsimp only
  cases begun : call.begin station.dispatcher with
  | mk dispatcher outcome =>
    have same : station.dispatcher.begin now ⟨station.time, 0⟩ alert channels =
        (dispatcher, outcome) := begun
    simp only [same]
    cases outcome with
    | duplicate => exact begins _ fun notices => by simp [Traffic.beginDirect, traffic, begun]
    | misused misuse => exact begins _ fun notices => by simp [Traffic.beginDirect, traffic, begun]
    | started flight =>
      let started : Station := { station with dispatcher, direct := some flight, delivered := [] }
      have first : Leads now station started :=
        begins _ fun notices => by simp [Traffic.beginDirect, traffic, begun, free, started]
      exact ((first.trans (leads_settle started)).trans (leads_waitFor _ _ none)).trans
        (leads_abandon _)

theorem leads_cancel (station : Station) : Leads now station station.cancel :=
  fun notices => ⟨notices, .act .cancel (by simp [Act.time?]) .refl⟩

theorem leads_drain (station : Station) (limit : Option Int) :
    Leads now station (station.drain now limit) := by
  let waited := (station.settle now).waitFor now (fun station => station.dispatcher.isDrained) limit
  have before : Leads now station waited :=
    (leads_settle station).trans (leads_waitFor _ _ limit)
  exact before.trans fun notices =>
    waited.dispatcher.leads_settleFirst now waited.time _ waited.direct.toList notices

theorem leads_stop {station last : Station} {patience : Value}
    (stopped : station.stop now patience = .ok last) : Leads now station last := by
  unfold stop at stopped
  split at stopped
  next =>
    obtain rfl : station.cancel = last := by simpa using stopped
    exact leads_cancel station
  next =>
    split at stopped
    next =>
      obtain rfl : (station.drain now none).cancel = last := by simpa using stopped
      exact (leads_drain station none).trans (leads_cancel _)
    next =>
      obtain rfl : station.cancel = last := by simpa using stopped
      exact leads_cancel station
    next wait _ =>
      obtain rfl : (station.drain now (wait.map (after station.time))).cancel = last := by
        simpa using stopped
      exact (leads_drain station _).trans (leads_cancel _)
    next => cases stopped

end Station

end SensorAlerting.Delivery
