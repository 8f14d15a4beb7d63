import SensorAlerting.Proofs.Delivery.Deduplication
import SensorAlerting.Proofs.Delivery.Scheduling

set_option autoImplicit false

namespace SensorAlerting.Delivery

open SensorAlerting.Number SensorAlerting.Time

def Begun.flight? : Begun -> Option Flight
  | .started flight => some flight
  | _ => none

def alertIdOf (submission : Submission) : String := submission.alert.alertId

namespace Dispatcher

variable (dispatcher : Dispatcher)

def carried? : Option String := dispatcher.current.map Flight.alertId

def admits : Bool :=
  match dispatcher.settings.queueSize with
  | .ok size => !isFull size dispatcher.queue.length
  | .error _ => false

omit dispatcher in
theorem isFull_iff {size : Int} {count : Nat} :
    isFull (.whole size) count = true ↔ 0 < size ∧ size <= count := by
  simp only [isFull, Quantity.isAtMost, Bool.and_eq_true, Bool.not_eq_true',
    decide_eq_false_iff_not, decide_eq_true_eq, Int.not_le]

theorem length_lt_of_admits {size : Int}
    (stated : dispatcher.settings.queueSize = .ok (.whole size)) (positive : 0 < size)
    (admits : dispatcher.admits = true) : (dispatcher.queue.length : Int) < size := by
  have notFull : ¬ isFull (.whole size) dispatcher.queue.length = true := by
    simpa [Dispatcher.admits, stated] using admits
  rw [isFull_iff] at notFull
  omega

theorem submit_queue (submission : Submission) :
    (dispatcher.submit submission).queue =
      dispatcher.queue ++ if dispatcher.admits then [submission] else [] := by
  unfold submit admits
  cases dispatcher.settings.queueSize with
  | error misuse => simp
  | ok size => cases full : isFull size dispatcher.queue.length <;> simp [full]

theorem submit_consumer (submission : Submission) :
    (dispatcher.submit submission).running = dispatcher.running ∧
      (dispatcher.submit submission).current = dispatcher.current := by
  unfold submit
  split
  next => split <;> exact ⟨rfl, rfl⟩
  next => exact ⟨rfl, rfl⟩

theorem addChannels_consumer (channels : List (String × Channel)) :
    let filled := channels.foldl (fun dispatcher entry => dispatcher.addChannel entry.1 entry.2)
      dispatcher
    filled.queue = dispatcher.queue ∧ filled.running = dispatcher.running ∧
      filled.current = dispatcher.current := by
  induction channels generalizing dispatcher with
  | nil => exact ⟨rfl, rfl, rfl⟩
  | cons entry rest ih => exact ih (dispatcher.addChannel entry.1 entry.2)

def handOver (now : Moment) (start : Point) (submission : Submission) (rest : List Submission) :
    Dispatcher :=
  let begun := dispatcher.begin now start submission.alert (.list submission.channels)
  { begun.1 with queue := rest, current := begun.2.flight? }

theorem alertId_of_started {now : Moment} {start : Point} {alert : Alert} {channels : Value}
    {flight : Flight} (started : (dispatcher.begin now start alert channels).2 = .started flight) :
    flight.alertId = alert.alertId := by
  unfold Dispatcher.begin at started
  dsimp only at started
  split at started
  next => cases started
  next =>
    split at started
    next => cases started
    next =>
      obtain rfl := Begun.started.inj started
      rfl

theorem queue_begin (call : Call) : (call.begin dispatcher).1.queue = dispatcher.queue := by
  have framed := dispatcher.begin_queue call dispatcher.queue
  exact congrArg (fun begun => begun.1.queue) framed

end Dispatcher

namespace Traffic

def accepted? (traffic : Traffic) : Act -> Option Submission
  | .submit submission => if traffic.dispatcher.admits then some submission else none
  | _ => none

/-- What an act takes from the queue and hands to a delivery. -/
def taken? (traffic : Traffic) : Act -> Option Submission
  | .take now start =>
    (traffic.call? (.take now start)).bind fun _ => traffic.dispatcher.queue.head?
  | _ => none

variable {traffic : Traffic}

theorem ready_of_call {now : Moment} {start : Point} {call : Call}
    (calls : traffic.call? (.take now start) = some call) :
    traffic.dispatcher.running = true ∧ traffic.dispatcher.current = none := by
  simp only [call?] at calls
  split at calls
  next ready => simpa [Option.isNone_iff_eq_none] using ready
  next => cases calls

theorem ready_of_taken {act : Act} {submission : Submission}
    (taken : traffic.taken? act = some submission) :
    traffic.dispatcher.running = true ∧ traffic.dispatcher.current = none := by
  cases act with
  | take now start =>
    obtain ⟨call, calls, -⟩ := Option.bind_eq_some_iff.mp taken
    exact ready_of_call calls
  | _ => cases taken

theorem admits_of_accepted {act : Act} {submission : Submission}
    (accepted : traffic.accepted? act = some submission) : traffic.dispatcher.admits = true := by
  cases act with
  | submit other =>
    simp only [accepted?] at accepted
    split at accepted
    next admits => exact admits
    next => cases accepted
  | _ => cases accepted

structure Serves (traffic : Traffic) (act : Act) (after : Dispatcher) : Prop where
  settings : after.settings = traffic.dispatcher.settings
  queue : traffic.dispatcher.queue ++ (traffic.accepted? act).toList =
    (traffic.taken? act).toList ++ after.queue
  carries : ∀ alertId, after.carried? = some alertId ->
    (traffic.taken? act).map alertIdOf = some alertId ∨
      traffic.dispatcher.carried? = some alertId
  halted : traffic.dispatcher.running = true -> after.running = false ->
    act = .cancel ∧ after.current = none

theorem Serves.of_same {act : Act} {after : Dispatcher} (noneIn : traffic.accepted? act = none)
    (noneOut : traffic.taken? act = none) (settings : after.settings = traffic.dispatcher.settings)
    (queue : after.queue = traffic.dispatcher.queue)
    (running : after.running = traffic.dispatcher.running)
    (carries : ∀ alertId, after.carried? = some alertId ->
      traffic.dispatcher.carried? = some alertId) :
    traffic.Serves act after where
  settings := settings
  queue := by simp [noneIn, noneOut, queue]
  carries := fun alertId carried => .inr (carries alertId carried)
  halted := fun ran stopped => by simp [running, ran] at stopped

theorem Serves.lengths {act : Act} {after : Dispatcher} (serves : traffic.Serves act after) :
    traffic.dispatcher.queue.length + (traffic.accepted? act).toList.length =
      (traffic.taken? act).toList.length + after.queue.length := by
  rw [<- List.length_append, serves.queue, List.length_append]

theorem Serves.stays {act : Act} {after : Dispatcher} (serves : traffic.Serves act after)
    (halted : traffic.dispatcher.running = false -> traffic.dispatcher.current = none)
    (stopped : after.running = false) : after.current = none := by
  cases running : traffic.dispatcher.running with
  | true => exact (serves.halted running stopped).2
  | false =>
    -- A delivery on its way would have been there before or taken just now, by a running consumer.
    refine Option.eq_none_iff_forall_ne_some.mpr fun flight onward => ?_
    have carried : after.carried? = some flight.alertId := congrArg (Option.map _) onward
    cases serves.carries _ carried with
    | inl taken =>
      obtain ⟨submission, taken, -⟩ := Option.map_eq_some_iff.mp taken
      rw [(ready_of_taken taken).1] at running
      cases running
    | inr busy =>
      rw [Dispatcher.carried?, halted running] at busy
      cases busy

theorem arrive_consumer {dispatcher after : Dispatcher} {flight? : Option Flight}
    (arrived : flight?.bind (arrive dispatcher) = some after) :
    after.queue = dispatcher.queue ∧ after.running = dispatcher.running ∧
      after.current = dispatcher.current := by
  obtain ⟨flight, -, arrived⟩ := Option.bind_eq_some_iff.mp arrived
  obtain ⟨delivered, -, rfl⟩ := Option.map_eq_some_iff.mp arrived
  exact ⟨rfl, rfl, rfl⟩

theorem serves_notify (call : Call) :
    traffic.Serves (.notify call) (traffic.step (.notify call)).dispatcher := by
  have begun : (traffic.step (.notify call)).dispatcher = (call.begin traffic.dispatcher).1 := by
    simp only [step, perform, beginDirect]
    split <;> simp_all
  rw [begun]
  obtain ⟨running, current⟩ := traffic.dispatcher.begin_consumer call
  exact .of_same rfl rfl (traffic.dispatcher.begin_settings call)
    (traffic.dispatcher.queue_begin call) running (by simp [Dispatcher.carried?, current])

theorem step_take {now : Moment} {start : Point} {submission : Submission}
    (taken : traffic.taken? (.take now start) = some submission) :
    ∃ rest, traffic.dispatcher.queue = submission :: rest ∧
      (traffic.step (.take now start)).dispatcher =
        traffic.dispatcher.handOver now start submission rest := by
  obtain ⟨call, calls, head⟩ := Option.bind_eq_some_iff.mp taken
  obtain ⟨rest, waiting⟩ := List.head?_eq_some_iff.mp head
  obtain ⟨running, free⟩ := ready_of_call calls
  obtain rfl : { now, start, alert := submission.alert, channels := .list submission.channels } =
      call := by simpa [call?, running, free, waiting] using calls
  refine ⟨rest, waiting, ?_⟩
  obtain ⟨-, current⟩ := traffic.dispatcher.begin_consumer
    ⟨now, start, submission.alert, .list submission.channels⟩
  rw [free] at current
  simp only [step, perform, calls, Option.map_some, Option.getD_some, beginQueued,
    Dispatcher.handOver, waiting, List.tail_cons]
  simp only [Call.begin] at current ⊢
  split
  next flight begun => simp [begun, Begun.flight?]
  next dispatcher outcome other begun =>
    rw [begun] at current
    cases outcome with
    | started flight => exact absurd rfl (other flight)
    | _ => simp [begun, Begun.flight?, <- current]

theorem call?_of_not_taken {now : Moment} {start : Point}
    (taken : traffic.taken? (.take now start) = none) :
    traffic.call? (.take now start) = none := by
  cases calls : traffic.call? (.take now start) with
  | none => rfl
  | some call =>
    have empty : traffic.dispatcher.queue.head? = none := by simpa [taken?, calls] using taken
    simp [call?, empty] at calls

theorem carried_handOver {dispatcher : Dispatcher} {now : Moment} {start : Point}
    {submission : Submission} {rest : List Submission} {alertId : String}
    (carried : (dispatcher.handOver now start submission rest).carried? = some alertId) :
    alertIdOf submission = alertId := by
  obtain ⟨flight, onward, rfl⟩ := Option.map_eq_some_iff.mp carried
  cases begun : (dispatcher.begin now start submission.alert (.list submission.channels)).2 with
  | started other =>
    obtain rfl : other = flight := by
      simpa [Dispatcher.handOver, begun, Begun.flight?] using onward
    exact (dispatcher.alertId_of_started begun).symm
  | _ => simp [Dispatcher.handOver, begun, Begun.flight?] at onward

theorem serves_take (now : Moment) (start : Point) :
    traffic.Serves (.take now start) (traffic.step (.take now start)).dispatcher := by
  cases taken : traffic.taken? (.take now start) with
  | none =>
    have idle : traffic.step (.take now start) = traffic := by
      simp [step, perform, call?_of_not_taken taken]
    rw [idle]
    exact .of_same rfl taken rfl rfl rfl fun _ => id
  | some submission =>
    obtain ⟨rest, waiting, handedOver⟩ := step_take taken
    let call : Call :=
      { now, start, alert := submission.alert, channels := .list submission.channels }
    have running := (traffic.dispatcher.begin_consumer call).1
    rw [handedOver]
    refine ⟨traffic.dispatcher.begin_settings call, ?_, fun alertId carried => .inl ?_, ?_⟩
    · simp [taken, waiting, accepted?, Dispatcher.handOver]
    · rw [taken, Option.map_some, carried_handOver carried]
    · exact fun ran stopped => absurd (running.trans ran) (ne_true_of_eq_false stopped)

/-- One act puts at most one alert into the queue or takes at most one from it, and no act but a
cancellation ends the consumer. -/
theorem serves_step (traffic : Traffic) (act : Act) :
    traffic.Serves act (traffic.step act).dispatcher := by
  cases act with
  | notify call => exact serves_notify call
  | take now start => exact serves_take now start
  | submit submission =>
    have queue := traffic.dispatcher.submit_queue submission
    obtain ⟨running, current⟩ := traffic.dispatcher.submit_consumer submission
    obtain ⟨settings, -⟩ := traffic.dispatcher.submit_frame submission
    refine ⟨settings, ?_, fun alertId carried => .inr ?_, ?_⟩
    · have grown : (traffic.step (.submit submission)).dispatcher.queue = _ := queue
      rw [grown]
      cases admits : traffic.dispatcher.admits <;> simp [accepted?, taken?, admits]
    · rw [<- carried]
      exact congrArg (Option.map Flight.alertId) current.symm
    · intro ran stopped
      have same : (traffic.step (.submit submission)).dispatcher.running = _ := running
      rw [same, ran] at stopped
      cases stopped
  | finish place =>
    simp only [step, perform]
    split
    next after arrived =>
      obtain ⟨settings, -⟩ := arrive_frame arrived
      obtain ⟨queue, running, current⟩ := arrive_consumer arrived
      exact .of_same rfl rfl settings queue running (by simp [Dispatcher.carried?, current])
    next => exact .of_same rfl rfl rfl rfl rfl fun _ => id
  | landCurrent time now =>
    refine .of_same rfl rfl rfl rfl rfl ?_
    simp [step, perform, Dispatcher.carried?, Function.comp_def, Flight.land]
  | finishCurrent =>
    simp only [step, perform]
    split
    next after arrived =>
      obtain ⟨settings, -⟩ := arrive_frame arrived
      obtain ⟨queue, running, current⟩ := arrive_consumer arrived
      exact .of_same rfl rfl settings queue running (by simp [Dispatcher.carried?, current])
    next => exact .of_same rfl rfl rfl rfl rfl fun _ => id
  | start => exact ⟨rfl, List.append_nil _, fun _ => .inr, fun _ stopped => by cases stopped⟩
  | cancel => exact ⟨rfl, List.append_nil _, fun alertId carried => (by cases carried),
      fun _ _ => ⟨rfl, rfl⟩⟩
  | _ => exact .of_same rfl rfl rfl rfl rfl fun _ => id

theorem over_of_current {act : Act} {flight : Flight} (untaken : traffic.taken? act = none)
    (busy : traffic.dispatcher.current = some flight)
    (free : (traffic.step act).dispatcher.current = none) :
    act = .cancel ∨ act = .finishCurrent ∧ ∃ delivered, flight.delivered? = some delivered ∧
      (traffic.step act).dispatcher =
        { traffic.dispatcher with current := none }.record delivered := by
  have still : (traffic.step act).dispatcher.current = traffic.dispatcher.current -> False := by
    intro same
    rw [same, busy] at free
    cases free
  cases act with
  | cancel => exact .inl rfl
  | finishCurrent =>
    cases arrived : flight.delivered? with
    | some delivered =>
      exact .inr ⟨rfl, delivered, rfl, by simp [step, perform, busy, arrive, arrived]⟩
    | none => exact absurd (by simp [step, perform, busy, arrive, arrived]) still
  | notify call =>
    refine absurd ?_ still
    have current := (traffic.dispatcher.begin_consumer call).2
    simp only [step, perform, beginDirect]
    split <;> simp_all
  | take now start =>
    exact absurd (by simp [step, perform, call?_of_not_taken untaken]) still
  | finish place =>
    refine absurd ?_ still
    simp only [step, perform]
    split
    next after arrived => exact (arrive_consumer arrived).2.2
    next => rfl
  | landCurrent time now => simp [step, perform, busy] at free
  | submit submission => exact absurd (traffic.dispatcher.submit_consumer submission).2 still
  | _ => exact absurd rfl still

end Traffic

end SensorAlerting.Delivery
