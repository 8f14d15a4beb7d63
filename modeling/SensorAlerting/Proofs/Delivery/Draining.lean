import SensorAlerting.Proofs.Delivery.Queueing

set_option autoImplicit false

/-!
The queue of alerts in any order of submissions, steps of the consumer, starts and stops. Beside the
traffic stand the lists of what was accepted, handed over and ended, and the count of what is
unfinished that a stop waits on.
-/

namespace SensorAlerting.Delivery

open SensorAlerting.Number SensorAlerting.Time

/-- A call of stop: what had been accepted before it and how much of it had ended, whether there was
a consumer to wait for, how the wait has gone, and whether the consumer was ended by another stop
meanwhile. -/
structure Stop where
  owed : List Submission
  past : Nat
  attended : Bool
  drained : Bool
  expired : Bool
  interrupted : Bool

namespace Stop

def waits (stop : Stop) : Bool := stop.attended && !stop.drained && !stop.expired

def interrupt (stop : Stop) : Stop :=
  if stop.waits then { stop with interrupted := true } else stop

end Stop

/-- What happens at a desk. A stop is called, may run out of patience, and at last ends the
consumer and returns. -/
inductive Move where
  | act (act : Act)
  | stop
  | expire (place : Nat)
  | leave (place : Nat)

/-- An alert that was handed over, when nothing is done for it any more: it was delivered, was a
repeat or could not begin, or it was cut off. -/
structure Ended where
  submission : Submission
  whole : Bool

/-- Traffic with what was accepted, handed over and ended, each in order, what the consumer has in
hand, how many alerts are unfinished, and the stops under way and returned. -/
structure Desk where
  traffic : Traffic
  accepted : List Submission
  handed : List Submission
  ended : List Ended
  inHand : Option Submission
  unfinished : Nat
  stops : List Stop
  returned : List Stop

def Act.cuts : Act -> Bool
  | .cancel => true
  | _ => false

namespace Desk

def start (settings : DispatcherSettings) (channels : List (String × Channel)) : Desk :=
  { traffic := .start settings channels, accepted := [], handed := [], ended := [], inHand := none
    unfinished := 0, stops := [], returned := [] }

def follow (desk : Desk) (act : Act) : Desk :=
  let accepted := (desk.traffic.accepted? act).toList
  let taken? := desk.traffic.taken? act
  { desk with
    traffic := desk.traffic.step act
    accepted := desk.accepted ++ accepted
    handed := desk.handed ++ taken?.toList
    inHand := taken?.or desk.inHand
    unfinished := desk.unfinished + accepted.length }

/-- A consumer without a delivery on its way is done with what it had in hand, however it ended. It
counts as finished also where it was cut off. -/
def settle (desk : Desk) (cut : Bool) : Desk :=
  if desk.traffic.dispatcher.current.isNone then
    { desk with
      ended := desk.ended ++ desk.inHand.toList.map fun submission => { submission, whole := !cut }
      inHand := none
      unfinished := desk.unfinished - desk.inHand.toList.length
      stops := if cut then desk.stops.map Stop.interrupt else desk.stops }
  else desk

def wakeStops (desk : Desk) : Desk :=
  if desk.unfinished = 0 then
    { desk with stops := desk.stops.map fun stop => { stop with drained := true } }
  else desk

def act (desk : Desk) (act : Act) : Desk := ((desk.follow act).settle act.cuts).wakeStops

def move (desk : Desk) : Move -> Desk
  | .act act => desk.act act
  | .stop =>
    let called : Stop :=
      { owed := desk.accepted, past := desk.ended.length
        attended := desk.traffic.dispatcher.running
        drained := false, expired := false, interrupted := false }
    wakeStops { desk with stops := desk.stops ++ [called] }
  | .expire place =>
    match desk.stops[place]? with
    | some stop =>
      if stop.waits then { desk with stops := desk.stops.set place { stop with expired := true } }
      else desk
    | none => desk
  | .leave place =>
    match desk.stops[place]? with
    | some stop =>
      if stop.waits then desk
      else
        act { desk with
              stops := desk.stops.eraseIdx place
              returned := desk.returned ++ [stop] } .cancel
    | none => desk

def run (desk : Desk) (moves : List Move) : Desk := moves.foldl move desk

/-- The part that an act has in the way of one alert from the queue through its delivery to its
end. -/
inductive Course (desk : Desk) : Act -> Desk -> Prop where
  | still {act : Act} {after : Desk} (untaken : desk.traffic.taken? act = none)
      (handed : after.handed = desk.handed) (ended : after.ended = desk.ended)
      (inHand : after.inHand = desk.inHand) : Course desk act after
  | begins {now : Moment} {start : Point} {submission : Submission} {rest : List Submission}
      {flight : Flight} {after : Desk} (running : desk.traffic.dispatcher.running = true)
      (free : desk.inHand = none) (queue : desk.traffic.dispatcher.queue = submission :: rest)
      (begun : (desk.traffic.dispatcher.begin now start submission.alert
        (.list submission.channels)).2 = .started flight)
      (dispatcher : after.traffic.dispatcher =
        desk.traffic.dispatcher.handOver now start submission rest)
      (handed : after.handed = desk.handed ++ [submission]) (ended : after.ended = desk.ended)
      (inHand : after.inHand = some submission) : Course desk (.take now start) after
  | returns {now : Moment} {start : Point} {submission : Submission} {rest : List Submission}
      {after : Desk} (running : desk.traffic.dispatcher.running = true)
      (free : desk.inHand = none) (queue : desk.traffic.dispatcher.queue = submission :: rest)
      (begun : ∀ flight, (desk.traffic.dispatcher.begin now start submission.alert
        (.list submission.channels)).2 ≠ .started flight)
      (dispatcher : after.traffic.dispatcher =
        desk.traffic.dispatcher.handOver now start submission rest)
      (handed : after.handed = desk.handed ++ [submission])
      (ended : after.ended = desk.ended ++ [{ submission, whole := true }])
      (inHand : after.inHand = none) : Course desk (.take now start) after
  | arrives {submission : Submission} {flight : Flight} {delivered : List Delivered} {after : Desk}
      (hand : desk.inHand = some submission)
      (current : desk.traffic.dispatcher.current = some flight)
      (arrived : flight.delivered? = some delivered)
      (dispatcher : after.traffic.dispatcher =
        { desk.traffic.dispatcher with current := none }.record delivered)
      (handed : after.handed = desk.handed)
      (ended : after.ended = desk.ended ++ [{ submission, whole := true }])
      (inHand : after.inHand = none) : Course desk .finishCurrent after
  | isCut {submission : Submission} {after : Desk} (hand : desk.inHand = some submission)
      (handed : after.handed = desk.handed)
      (ended : after.ended = desk.ended ++ [{ submission, whole := false }])
      (inHand : after.inHand = none) : Course desk .cancel after

/-- What a stop owes was accepted, and has ended once the queue was drained. What has ended since
the stop was called is whole, unless the stop gave up or was interrupted. -/
structure Honors (accepted : List Submission) (ended : List Ended) (stop : Stop) : Prop where
  owed : stop.owed <+: accepted
  drained : stop.drained = true -> stop.owed <+: ended.map Ended.submission
  whole : stop.attended = true -> stop.expired = false -> stop.interrupted = false ->
    ∀ entry ∈ (ended.take stop.owed.length).drop stop.past, entry.whole = true

namespace Honors

variable {accepted : List Submission} {ended : List Ended} {stop : Stop}

theorem accepts (honors : Honors accepted ended stop) (more : List Submission) :
    Honors (accepted ++ more) ended stop :=
  { honors with owed := honors.owed.trans (List.prefix_append _ _) }

theorem mem_of_mem_window {earlier entries : List Ended} {count past : Nat} {entry : Ended}
    (member : entry ∈ ((earlier ++ entries).take count).drop past) :
    entry ∈ (earlier.take count).drop past ∨ entry ∈ entries := by
  rw [List.take_append, List.drop_append] at member
  cases List.mem_append.mp member with
  | inl before => exact .inl before
  | inr later => exact .inr (List.mem_of_mem_take (List.mem_of_mem_drop later))

theorem ends (honors : Honors accepted ended stop) (entries : List Ended)
    (each : ∀ entry ∈ entries, entry.whole = true) : Honors accepted (ended ++ entries) stop where
  owed := honors.owed
  drained drained := by
    rw [List.map_append]
    exact (honors.drained drained).trans (List.prefix_append _ _)
  whole attended patient alone entry member := by
    cases mem_of_mem_window member with
    | inl before => exact honors.whole attended patient alone entry before
    | inr last => exact each entry last

theorem ends_of_not_waits (honors : Honors accepted ended stop) (ready : stop.waits = false)
    (entries : List Ended) : Honors accepted (ended ++ entries) stop where
  owed := honors.owed
  drained drained := by
    rw [List.map_append]
    exact (honors.drained drained).trans (List.prefix_append _ _)
  whole attended patient alone entry member := by
    have drained : stop.drained = true := by simpa [Stop.waits, attended, patient] using ready
    have enough : stop.owed.length <= ended.length := by
      simpa using (honors.drained drained).length_le
    rw [List.take_append_of_le_length enough] at member
    exact honors.whole attended patient alone entry member

theorem interrupt (honors : Honors accepted ended stop) (entries : List Ended) :
    Honors accepted (ended ++ entries) stop.interrupt := by
  unfold Stop.interrupt
  split
  next =>
    refine ⟨honors.owed, fun drained => ?_, nofun⟩
    rw [List.map_append]
    exact (honors.drained drained).trans (List.prefix_append _ _)
  next waits => exact honors.ends_of_not_waits (eq_false_of_ne_true waits) entries

end Honors

structure Ordered (settings : DispatcherSettings) (desk : Desk) : Prop where
  same : desk.traffic.dispatcher.settings = settings
  accepted : desk.accepted = desk.handed ++ desk.traffic.dispatcher.queue
  handed : desk.handed = desk.ended.map Ended.submission ++ desk.inHand.toList
  carries : ∀ alertId, desk.traffic.dispatcher.carried? = some alertId ->
    desk.inHand.map alertIdOf = some alertId
  halted : desk.traffic.dispatcher.running = false -> desk.traffic.dispatcher.current = none
  count : desk.unfinished = desk.traffic.dispatcher.queue.length + desk.inHand.toList.length
  bounded : ∀ size, settings.queueSize = .ok (.whole size) -> 0 < size ->
    (desk.traffic.dispatcher.queue.length : Int) <= size
  stops : ∀ stop ∈ desk.stops, Honors desk.accepted desk.ended stop
  returned : ∀ stop ∈ desk.returned,
    Honors desk.accepted desk.ended stop ∧ stop.waits = false

structure Sound (settings : DispatcherSettings) (desk : Desk) : Prop extends
    Ordered settings desk where
  free : desk.traffic.dispatcher.current = none -> desk.inHand = none

variable {settings : DispatcherSettings} {desk : Desk}

theorem Sound.carried (sound : Sound settings desk) :
    desk.traffic.dispatcher.carried? = desk.inHand.map alertIdOf := by
  cases current : desk.traffic.dispatcher.current with
  | none => simp [Dispatcher.carried?, current, sound.free current]
  | some flight =>
    have carried : desk.traffic.dispatcher.carried? = some flight.alertId :=
      congrArg (Option.map _) current
    rw [carried, sound.carries _ carried]

theorem Sound.follow (sound : Sound settings desk) (act : Act) :
    Ordered settings (desk.follow act) := by
  have serves := desk.traffic.serves_step act
  have lengths := serves.lengths
  obtain ⟨⟨rfl, accepted, handed, carries, halted, count, bounded, stops, returned⟩, free⟩ := sound
  -- What is taken comes into an empty hand.
  have hand : ((desk.traffic.taken? act).or desk.inHand).toList =
      desk.inHand.toList ++ (desk.traffic.taken? act).toList := by
    cases taken : desk.traffic.taken? act with
    | none => simp
    | some submission => simp [free (Traffic.ready_of_taken taken).2]
  refine ⟨serves.settings, ?_, ?_, ?_, serves.stays halted, ?_, ?_, ?_, ?_⟩
  · show desk.accepted ++ (desk.traffic.accepted? act).toList =
      desk.handed ++ (desk.traffic.taken? act).toList ++ (desk.traffic.step act).dispatcher.queue
    rw [accepted, List.append_assoc, serves.queue, List.append_assoc]
  · show desk.handed ++ (desk.traffic.taken? act).toList =
      desk.ended.map Ended.submission ++ ((desk.traffic.taken? act).or desk.inHand).toList
    rw [hand, handed, List.append_assoc]
  · intro alertId carried
    cases serves.carries alertId carried with
    | inl taken =>
      obtain ⟨submission, isTaken, rfl⟩ := Option.map_eq_some_iff.mp taken
      simp [Desk.follow, isTaken]
    | inr before =>
      have held := carries alertId before
      cases taken : desk.traffic.taken? act with
      | none => simpa [Desk.follow, taken] using held
      | some submission => simp [free (Traffic.ready_of_taken taken).2] at held
  · show desk.unfinished + (desk.traffic.accepted? act).toList.length =
      (desk.traffic.step act).dispatcher.queue.length +
        ((desk.traffic.taken? act).or desk.inHand).toList.length
    rw [hand, List.length_append]
    omega
  · intro size stated positive
    show ((desk.traffic.step act).dispatcher.queue.length : Int) <= size
    have room := bounded size stated positive
    cases put : desk.traffic.accepted? act with
    | none =>
      rw [put, Option.toList_none, List.length_nil] at lengths
      omega
    | some submission =>
      have admits := Traffic.admits_of_accepted put
      have space := desk.traffic.dispatcher.length_lt_of_admits stated positive admits
      rw [put, Option.toList_some, List.length_singleton] at lengths
      omega
  · exact fun stop member => (stops stop member).accepts _
  · exact fun stop member => ⟨(returned stop member).1.accepts _, (returned stop member).2⟩

theorem Ordered.settle (ordered : Ordered settings desk) (cut : Bool) :
    Sound settings (desk.settle cut) := by
  unfold Desk.settle
  split
  next free =>
    have current := Option.isNone_iff_eq_none.mp free
    obtain ⟨same, accepted, handed, carries, halted, count, bounded, stops, returned⟩ := ordered
    refine ⟨⟨same, accepted, ?_, ?_, halted, ?_, bounded, ?_, ?_⟩, fun _ => rfl⟩
    · simpa [Function.comp_def] using handed
    · simp [Dispatcher.carried?, current]
    · show desk.unfinished - desk.inHand.toList.length = _
      simp [count]
    · intro stop member
      cases cut with
      | true =>
        obtain ⟨waiting, there, rfl⟩ := List.mem_map.mp member
        exact (stops waiting there).interrupt _
      | false => exact (stops stop member).ends _ (by simp)
    · intro stop member
      obtain ⟨honors, ready⟩ := returned stop member
      exact ⟨honors.ends_of_not_waits ready _, ready⟩
  next onward => exact ⟨ordered, fun current => absurd (by simp [current]) onward⟩

theorem Ordered.ended_of_finished (ordered : Ordered settings desk)
    (finished : desk.unfinished = 0) : desk.ended.map Ended.submission = desk.accepted := by
  have count := ordered.count
  have emptied : desk.traffic.dispatcher.queue = [] := List.eq_nil_of_length_eq_zero (by omega)
  have free : desk.inHand.toList = [] := List.eq_nil_of_length_eq_zero (by omega)
  rw [ordered.accepted, ordered.handed, emptied, free, List.append_nil, List.append_nil]

theorem Sound.wakeStops (sound : Sound settings desk) : Sound settings desk.wakeStops := by
  unfold Desk.wakeStops
  split
  next finished =>
    -- What was accepted before a stop is among all that was accepted, and all that has ended.
    have all := sound.ended_of_finished finished
    refine { sound with stops := fun stop member => ?_ }
    obtain ⟨waiting, there, rfl⟩ := List.mem_map.mp member
    obtain ⟨owed, -, whole⟩ := sound.stops waiting there
    exact ⟨owed, fun _ => all ▸ owed, whole⟩
  next => exact sound

theorem Sound.act (sound : Sound settings desk) (act : Act) : Sound settings (desk.act act) :=
  ((sound.follow act).settle act.cuts).wakeStops

theorem Sound.move (sound : Sound settings desk) (move : Move) :
    Sound settings (desk.move move) := by
  cases move with
  | act act => exact sound.act act
  | stop =>
    refine Sound.wakeStops { sound with stops := fun stop member => ?_ }
    cases List.mem_append.mp member with
    | inl before => exact sound.stops stop before
    | inr called =>
      obtain rfl := List.mem_singleton.mp called
      refine ⟨List.prefix_rfl, nofun, fun _ _ _ entry member => ?_⟩
      rw [List.drop_eq_nil_of_le (List.length_take_le' _ _)] at member
      cases member
  | expire place =>
    simp only [Desk.move]
    split
    next stop found =>
      split
      next =>
        refine { sound with stops := fun other member => ?_ }
        cases List.mem_or_eq_of_mem_set member with
        | inl before => exact sound.stops other before
        | inr expired =>
          obtain rfl := expired
          have honors := sound.stops stop (List.mem_of_getElem? found)
          exact ⟨honors.owed, honors.drained, nofun⟩
      next => exact sound
    next => exact sound
  | leave place =>
    simp only [Desk.move]
    split
    next stop found =>
      split
      next => exact sound
      next ready =>
        have left : Sound settings
            { desk with
              stops := desk.stops.eraseIdx place, returned := desk.returned ++ [stop] } := by
          refine { sound with stops := fun other member => ?_, returned := fun other member => ?_ }
          · exact sound.stops other (List.mem_of_mem_eraseIdx member)
          · cases List.mem_append.mp member with
            | inl before => exact sound.returned other before
            | inr last =>
              obtain rfl := List.mem_singleton.mp last
              exact ⟨sound.stops other (List.mem_of_getElem? found), by simpa using ready⟩
        exact left.act .cancel
    next => exact sound

theorem Sound.run (sound : Sound settings desk) (moves : List Move) :
    Sound settings (desk.run moves) := by
  induction moves generalizing desk with
  | nil => exact sound
  | cons move rest ih => exact ih (sound.move move)

theorem Sound.start (settings : DispatcherSettings) (channels : List (String × Channel)) :
    Sound settings (.start settings channels) := by
  let bare : Dispatcher :=
    { settings, channels := [], seen := [], deliveries := [], queue := [], dropped := 0
      running := false, current := none, sent := [] }
  obtain ⟨same, -⟩ := bare.addChannels_frame channels
  obtain ⟨empty, -, free⟩ := bare.addChannels_consumer channels
  have queue : (Desk.start settings channels).traffic.dispatcher.queue = [] := empty
  have current : (Desk.start settings channels).traffic.dispatcher.current = none := free
  refine ⟨⟨same, ?_, rfl, ?_, fun _ => current, ?_, ?_, nofun, nofun⟩, fun _ => rfl⟩
  · rw [queue]
    rfl
  · simp [Dispatcher.carried?, current]
  · rw [queue]
    rfl
  · intro size stated positive
    rw [queue]
    exact Int.le_of_lt positive

theorem Sound.finished_iff (sound : Sound settings desk) :
    desk.unfinished = 0 ↔ desk.traffic.dispatcher.isDrained = true := by
  have count := sound.count
  simp only [Dispatcher.isDrained, Bool.and_eq_true, List.isEmpty_iff, Option.isNone_iff_eq_none]
  constructor
  next =>
    intro finished
    have free : desk.inHand = none := by
      cases inHand : desk.inHand with
      | none => rfl
      | some submission =>
        rw [inHand, Option.toList_some, List.length_singleton] at count
        omega
    have emptied : desk.traffic.dispatcher.queue = [] := List.eq_nil_of_length_eq_zero (by omega)
    have carried := sound.carried
    rw [free] at carried
    exact ⟨emptied, Option.map_eq_none_iff.mp carried⟩
  next =>
    rintro ⟨emptied, current⟩
    rw [count, emptied, sound.free current]
    rfl

theorem Sound.submit (sound : Sound settings desk) {size : Int}
    (stated : settings.queueSize = .ok (.whole size)) (submission : Submission) :
    let dispatcher := desk.traffic.dispatcher
    dispatcher.submit submission =
      if 0 < size ∧ (dispatcher.pending : Int) = size then
        { dispatcher with dropped := dispatcher.dropped + 1 }
      else { dispatcher with queue := dispatcher.queue ++ [submission] } := by
  intro dispatcher
  have sized : dispatcher.settings.queueSize = .ok (.whole size) := by rw [sound.same, stated]
  have full : Dispatcher.isFull (.whole size) dispatcher.queue.length = true ↔
      0 < size ∧ (dispatcher.pending : Int) = size := by
    rw [Dispatcher.isFull_iff]
    refine and_congr_right fun positive => ?_
    have room := sound.bounded size stated positive
    simp only [dispatcher, Dispatcher.pending]
    omega
  simp only [Dispatcher.submit, sized, full]

theorem settle_frame (desk : Desk) (cut : Bool) :
    (desk.settle cut).traffic = desk.traffic ∧ (desk.settle cut).handed = desk.handed ∧
      (desk.settle cut).returned = desk.returned := by
  unfold Desk.settle
  split <;> exact ⟨rfl, rfl, rfl⟩

theorem wakeStops_frame (desk : Desk) :
    desk.wakeStops.traffic = desk.traffic ∧ desk.wakeStops.handed = desk.handed ∧
      desk.wakeStops.ended = desk.ended ∧ desk.wakeStops.inHand = desk.inHand ∧
      desk.wakeStops.returned = desk.returned := by
  unfold Desk.wakeStops
  split <;> exact ⟨rfl, rfl, rfl, rfl, rfl⟩

theorem traffic_act (desk : Desk) (act : Act) : (desk.act act).traffic = desk.traffic.step act := by
  rw [Desk.act, (wakeStops_frame _).1, (settle_frame _ _).1]
  rfl

theorem returned_act (desk : Desk) (act : Act) : (desk.act act).returned = desk.returned := by
  rw [Desk.act, (wakeStops_frame _).2.2.2.2, (settle_frame _ _).2.2]
  rfl

theorem handed_act (desk : Desk) (act : Act) :
    (desk.act act).handed = desk.handed ++ (desk.traffic.taken? act).toList := by
  rw [Desk.act, (wakeStops_frame _).2.1, (settle_frame _ _).2.1]
  rfl

theorem ended_act (desk : Desk) (act : Act) :
    let hand := (desk.traffic.taken? act).or desk.inHand
    if (desk.traffic.step act).dispatcher.current.isNone then
      (desk.act act).inHand = none ∧ (desk.act act).ended =
        desk.ended ++ hand.toList.map fun submission => { submission, whole := !act.cuts }
    else (desk.act act).inHand = hand ∧ (desk.act act).ended = desk.ended := by
  obtain ⟨-, -, ended, inHand, -⟩ := wakeStops_frame ((desk.follow act).settle act.cuts)
  have after : (desk.follow act).traffic = desk.traffic.step act := rfl
  rw [Desk.act, ended, inHand, Desk.settle, after]
  split <;> exact ⟨rfl, rfl⟩

theorem Sound.course (sound : Sound settings desk) (act : Act) :
    desk.Course act (desk.act act) := by
  have handed := desk.handed_act act
  have left := desk.ended_act act
  cases taken : desk.traffic.taken? act with
  | some submission =>
    have free := sound.free (Traffic.ready_of_taken taken).2
    have running := (Traffic.ready_of_taken taken).1
    cases act with
    | take now start =>
      obtain ⟨rest, queue, handedOver⟩ := Traffic.step_take taken
      have dispatcher := handedOver
      rw [<- traffic_act] at dispatcher
      simp only [taken, handedOver, Dispatcher.handOver, Option.some_or, Option.toList_some,
        List.map_singleton] at handed left
      cases begun : (desk.traffic.dispatcher.begin now start submission.alert
          (.list submission.channels)).2 with
      | started flight =>
        rw [begun] at left
        exact .begins running free queue begun dispatcher handed left.2 left.1
      | duplicate | misused =>
        rw [begun] at left
        refine .returns running free queue ?_ dispatcher handed left.2 left.1
        simp [begun]
    | _ => cases taken
  | none =>
    simp only [taken, Option.none_or, Option.toList_none, List.append_nil] at handed left
    cases hand : desk.inHand with
    | none =>
      simp only [hand, Option.toList_none, List.map_nil, List.append_nil, ite_self] at left
      exact .still taken handed left.2 (left.1.trans hand.symm)
    | some submission =>
      cases free : (desk.traffic.step act).dispatcher.current with
      | some flight =>
        rw [free] at left
        exact .still taken handed left.2 left.1
      | none =>
        -- What was in hand had a delivery on its way: it has arrived, or is cut off with it.
        rw [free, hand] at left
        have carried := sound.carried
        rw [hand] at carried
        obtain ⟨flight, current, -⟩ := Option.map_eq_some_iff.mp carried
        obtain rfl | ⟨rfl, delivered, arrived, recorded⟩ :=
          Traffic.over_of_current taken current free
        next => exact .isCut hand handed left.2 left.1
        next =>
          rw [<- traffic_act] at recorded
          exact .arrives hand current arrived recorded handed left.2 left.1

structure Stopping (desk : Desk) (owed : List Submission) (attended : Bool) (stop : Stop) :
    Prop where
  alone : desk.stops = [stop]
  owed : stop.owed = owed
  attended : stop.attended = attended
  patient : stop.expired = false
  awake : desk.unfinished = 0 -> stop.drained = true

variable {owed : List Submission} {attended : Bool} {stop : Stop}

theorem stopping_wakeStops (alone : desk.stops = [stop]) (isOwed : stop.owed = owed)
    (isAttended : stop.attended = attended) (patient : stop.expired = false) :
    ∃ woken, desk.wakeStops.Stopping owed attended woken := by
  unfold Desk.wakeStops
  by_cases finished : desk.unfinished = 0
  next =>
    rw [if_pos finished]
    exact ⟨{ stop with drained := true }, by simp [alone], isOwed, isAttended, patient,
      fun _ => rfl⟩
  next =>
    rw [if_neg finished]
    exact ⟨stop, alone, isOwed, isAttended, patient, fun ended => absurd ended finished⟩

theorem stops_settle (cut : Bool) :
    (desk.settle cut).stops = desk.stops ∨
      (desk.settle cut).stops = desk.stops.map Stop.interrupt := by
  unfold Desk.settle
  split
  next =>
    cases cut with
    | true => exact .inr rfl
    | false => exact .inl rfl
  next => exact .inl rfl

theorem interrupt_frame (stop : Stop) :
    stop.interrupt.owed = stop.owed ∧ stop.interrupt.attended = stop.attended ∧
      stop.interrupt.expired = stop.expired := by
  unfold Stop.interrupt
  split <;> exact ⟨rfl, rfl, rfl⟩

theorem Stopping.act (stopping : desk.Stopping owed attended stop) (act : Act) :
    ∃ woken, (desk.act act).Stopping owed attended woken := by
  obtain ⟨alone, rfl, rfl, patient, -⟩ := stopping
  have before : (desk.follow act).stops = [stop] := alone
  obtain same | interrupted := @stops_settle (desk.follow act) act.cuts
  next => exact stopping_wakeStops (same.trans before) rfl rfl patient
  next =>
    rw [before] at interrupted
    obtain ⟨owed, attended, expired⟩ := interrupt_frame stop
    exact stopping_wakeStops interrupted owed attended (expired.trans patient)

theorem Stopping.run (stopping : desk.Stopping owed attended stop) (acts : List Act) :
    ∃ last, (desk.run (acts.map .act)).Stopping owed attended last ∧
      (desk.run (acts.map .act)).returned = desk.returned ∧
      (desk.run (acts.map .act)).traffic = desk.traffic.run acts := by
  induction acts generalizing desk stop with
  | nil => exact ⟨stop, stopping, rfl, rfl⟩
  | cons act rest ih =>
    obtain ⟨woken, next⟩ := stopping.act act
    obtain ⟨last, ended, returned, traffic⟩ := ih next
    refine ⟨last, ended, returned.trans (desk.returned_act act), ?_⟩
    rw [traffic_act] at traffic
    exact traffic

theorem move_leave (alone : desk.stops = [stop]) (ready : stop.waits = false) :
    desk.move (.leave 0) =
      act { desk with stops := [], returned := desk.returned ++ [stop] } .cancel := by
  simp [Desk.move, alone, ready]

theorem Stopping.leave (stopping : desk.Stopping owed attended stop) :
    ∃ moves last, (desk.run moves).traffic = desk.traffic.step .cancel ∧
      (desk.run moves).returned = desk.returned ++ [last] ∧ last.owed = owed ∧
      last.attended = attended ∧ (desk.unfinished = 0 -> last.expired = false) := by
  obtain ⟨alone, rfl, rfl, patient, awake⟩ := stopping
  cases waits : stop.waits with
  | false =>
    have moved : desk.run [.leave 0] = _ := move_leave alone waits
    refine ⟨[.leave 0], stop, ?_, ?_, rfl, rfl, fun _ => patient⟩
    · rw [moved, traffic_act]
    · rw [moved, returned_act]
  | true =>
    -- What it waits for does not come any more, so that its patience has to run out first.
    let late : Stop := { stop with expired := true }
    have expired : desk.move (.expire 0) = { desk with stops := [late] } := by
      simp [Desk.move, alone, waits, late]
    have ready : late.waits = false := by simp [Stop.waits, late]
    have moved : desk.run [.expire 0, .leave 0] =
        Desk.act { desk with stops := [], returned := desk.returned ++ [late] } .cancel := by
      simp only [Desk.run, List.foldl_cons, List.foldl_nil, expired]
      exact move_leave rfl ready
    refine ⟨[.expire 0, .leave 0], late, ?_, ?_, rfl, rfl, fun finished => ?_⟩
    · rw [moved, traffic_act]
    · rw [moved, returned_act]
    · simp [Stop.waits, awake finished] at waits

end Desk

namespace Station

variable {now : Moment} {station last : Station} {patience : Value}

theorem stop_cases (stopped : station.stop now patience = .ok last) :
    ∃ between, station.Leads now between ∧ last = between.cancel := by
  unfold stop at stopped
  split at stopped
  next => exact ⟨station, .refl, (Except.ok.inj stopped).symm⟩
  next =>
    split at stopped
    next => exact ⟨_, leads_drain station none, (Except.ok.inj stopped).symm⟩
    next => exact ⟨station, .refl, (Except.ok.inj stopped).symm⟩
    next => exact ⟨_, leads_drain station _, (Except.ok.inj stopped).symm⟩
    next => cases stopped

theorem stop_returns (stopped : station.stop now patience = .ok last)
    {settings : DispatcherSettings} {desk : Desk} (sound : Desk.Sound settings desk)
    (alone : desk.stops = []) {notices : List Notice}
    (there : desk.traffic = station.traffic notices) :
    ∃ (moves : List Move) (stop : Stop) (between : Station),
      (desk.run moves).traffic.dispatcher = last.dispatcher ∧
      (desk.run moves).returned = desk.returned ++ [stop] ∧ stop.owed = desk.accepted ∧
      stop.attended = station.dispatcher.running ∧ last = between.cancel ∧
      (between.dispatcher.isDrained = true -> stop.expired = false) := by
  obtain ⟨between, leads, rfl⟩ := stop_cases stopped
  obtain ⟨later, acts, -, reached⟩ := leads notices
  let called : Stop :=
    { owed := desk.accepted, past := desk.ended.length
      attended := desk.traffic.dispatcher.running
      drained := false, expired := false, interrupted := false }
  have only : Desk.stops { desk with stops := desk.stops ++ [called] } = [called] := by
    simp [alone]
  obtain ⟨_, stopping⟩ : ∃ stop, (desk.move .stop).Stopping _ _ stop :=
    Desk.stopping_wakeStops only rfl rfl rfl
  obtain ⟨sameTraffic, -, -, -, sameReturned⟩ :=
    Desk.wakeStops_frame { desk with stops := desk.stops ++ [called] }
  obtain ⟨_, waiting, returned, traffic⟩ := stopping.run acts
  obtain ⟨moves, stop, left, gone, owed, attended, patient⟩ := waiting.leave
  have reaching : ((desk.move .stop).run (acts.map .act)).traffic = between.traffic later := by
    rw [traffic, <- reached, <- there]
    exact congrArg (Traffic.run · acts) sameTraffic
  -- The stop is called, the station goes on to the end of its wait, and the stop returns.
  have moved : desk.run (.stop :: acts.map .act ++ moves) =
      ((desk.move .stop).run (acts.map .act)).run moves := by
    simp [Desk.run]
  refine ⟨.stop :: acts.map .act ++ moves, stop, between, ?_, ?_, owed, ?_, rfl, fun drained => ?_⟩
  · rw [moved, left, reaching]
    rfl
  · rw [moved, gone, returned]
    exact congrArg (· ++ [stop]) sameReturned
  · exact attended.trans (congrArg (fun traffic => traffic.dispatcher.running) there)
  · refine patient (((sound.move .stop).run (acts.map .act)).finished_iff.mpr ?_)
    rw [reaching]
    exact drained

end Station

/-- Alerts go through the queue in order, each once, however submissions, steps of the consumer,
starts and stops follow on each other. Nothing but a stop ends the consumer. A stop that does not
run out of patience returns after all that was accepted before it has ended; what another stop has
cut off by then is not delivered, and never will be. -/
theorem queue_in_order (settings : DispatcherSettings) (channels : List (String × Channel))
    (moves : List Move) :
    let desk := (Desk.start settings channels).run moves
    let dispatcher := desk.traffic.dispatcher
    (∀ size, settings.queueSize = .ok (.whole size) -> ∀ submission,
      dispatcher.submit submission =
        if 0 < size ∧ (dispatcher.pending : Int) = size then
          { dispatcher with dropped := dispatcher.dropped + 1 }
        else { dispatcher with queue := dispatcher.queue ++ [submission] }) ∧
    desk.accepted = desk.handed ++ dispatcher.queue ∧
    desk.handed = desk.ended.map Ended.submission ++ desk.inHand.toList ∧
    dispatcher.carried? = desk.inHand.map alertIdOf ∧
    (desk.unfinished = 0 ↔ dispatcher.isDrained = true) ∧
    (∀ act, desk.Course act (desk.act act)) ∧
    (∀ act, act ≠ .cancel -> dispatcher.running = true ->
      (desk.traffic.step act).dispatcher.running = true) ∧
    (∀ stop ∈ desk.returned, stop.attended = true -> stop.expired = false ->
      stop.owed <+: desk.ended.map Ended.submission ∧
      (stop.interrupted = false ->
        ∀ entry ∈ (desk.ended.take stop.owed.length).drop stop.past, entry.whole = true)) := by
  intro desk dispatcher
  have sound : Desk.Sound settings desk := (Desk.Sound.start settings channels).run moves
  refine ⟨fun size stated => sound.submit stated, sound.accepted, sound.handed, sound.carried,
    sound.finished_iff, sound.course, ?_, ?_⟩
  · intro act other running
    refine eq_true_of_ne_false fun stopped => ?_
    exact other (((desk.traffic.serves_step act).halted running stopped).1)
  · intro stop member attended patient
    obtain ⟨honors, left⟩ := sound.returned stop member
    have drained : stop.drained = true := by simpa [Stop.waits, attended, patient] using left
    exact ⟨honors.drained drained, honors.whole attended patient⟩

def fire (ruleId : String) (channels : List Value) : Submission :=
  { alert :=
      { alertId := ruleId, ruleId, category := .threshold, severity := .warning
        deviceId := "hall", sensorType := none, location := none, timestamp := universal 0
        value := .null, condition := none, message := "smoke", details := [], event := none }
    channels }

def narrow : DispatcherSettings :=
  { window := 300 * second, retention := 3600 * second, timeout := .null
    queueSize := .ok (.whole 2), history := none }

def rush : List Move :=
  [.act (.submit (fire "smoke" [])), .act (.submit (fire "heat" [.null])),
    .act (.submit (fire "gas" [])), .act .start, .stop, .leave 0,
    .act (.take (universal 0) ⟨0, 0⟩), .act .finishCurrent, .act (.take (universal 0) ⟨0, 0⟩),
    .leave 0]

/-- The stop that is called in a rush cannot return at first, and has seen to both alerts when it
does. -/
theorem queue_in_order_rush :
    let desk := (Desk.start narrow []).run rush
    desk.traffic.dispatcher.dropped = 1 ∧
      desk.handed.map (fun submission => submission.alert.ruleId) = ["smoke", "heat"] ∧
      ∃ stop ∈ desk.returned, stop.attended = true ∧ stop.expired = false ∧
        stop.interrupted = false ∧ stop.owed.length = 2 ∧
        stop.owed <+: desk.ended.map Ended.submission ∧
        ∀ entry ∈ desk.ended.take 2, entry.whole = true := by
  intro desk
  have returned : desk.returned.head?.map (fun stop =>
      (stop.owed.length, stop.past, stop.attended, stop.expired, stop.interrupted)) =
      some (2, 0, true, false, false) := by
    decide +kernel
  obtain ⟨stop, first, shown⟩ := Option.map_eq_some_iff.mp returned
  obtain ⟨rest, listed⟩ := List.head?_eq_some_iff.mp first
  have member : stop ∈ desk.returned := by simp [listed]
  simp only [Prod.mk.injEq] at shown
  obtain ⟨owed, past, attended, expired, alone⟩ := shown
  obtain ⟨-, -, -, -, -, -, -, kept⟩ := queue_in_order narrow [] rush
  obtain ⟨ended, whole⟩ := kept stop member attended expired
  refine ⟨by decide +kernel, by decide +kernel, stop, member, attended, expired, alone, owed, ended,
    fun entry among => whole alone entry ?_⟩
  rwa [owed, past]

def siren : Channel := .plain "siren" { delay := 5 * second, reply := some (.accepted .null) }

def givenUp : List Move :=
  [.act .start, .act (.submit (fire "smoke" [.text "siren"])),
    .act (.take (universal 0) ⟨0, 0⟩), .stop, .expire 0]

/-- A stop returns in time that owes the alert that was cut off, and nothing was delivered. -/
def Overtakes (others : List Move) : Prop :=
  let desk := (Desk.start narrow [("siren", siren)]).run (givenUp ++ others)
  ∃ stop ∈ desk.returned, stop.attended = true ∧ stop.expired = false ∧
    stop.owed.map (fun submission => submission.alert.ruleId) = ["smoke"] ∧
    desk.ended.map (fun entry => (entry.submission.alert.ruleId, entry.whole)) =
      [("smoke", false)] ∧
    desk.traffic.dispatcher.deliveries.isEmpty = true

theorem overtakes_of_last {others : List Move}
    (last : let desk := (Desk.start narrow [("siren", siren)]).run (givenUp ++ others)
      (desk.returned.getLast?.map fun stop => (stop.attended, stop.expired,
          stop.owed.map fun submission => submission.alert.ruleId)) =
        some (true, false, ["smoke"]) ∧
      desk.ended.map (fun entry => (entry.submission.alert.ruleId, entry.whole)) =
        [("smoke", false)] ∧
      desk.traffic.dispatcher.deliveries.isEmpty = true) : Overtakes others := by
  obtain ⟨returned, ended, empty⟩ := last
  obtain ⟨stop, isLast, shown⟩ := Option.map_eq_some_iff.mp returned
  simp only [Prod.mk.injEq] at shown
  exact ⟨stop, List.mem_of_getLast? isLast, shown.1, shown.2.1, shown.2.2, ended, empty⟩

/-- What was cut off is taken for finished, by a later stop and by one that is still waiting. -/
theorem cut_off_unfinished :
    Overtakes [.leave 0, .act .start, .stop, .leave 0] ∧ Overtakes [.stop, .leave 0, .leave 0] :=
  ⟨overtakes_of_last (by decide +kernel), overtakes_of_last (by decide +kernel)⟩

end SensorAlerting.Delivery
