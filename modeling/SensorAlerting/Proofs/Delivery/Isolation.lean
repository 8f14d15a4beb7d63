import SensorAlerting.Proofs.Delivery.Attempts
import SensorAlerting.Proofs.Delivery.Waiting

set_option autoImplicit false

/-!
Each channel of a delivery is on its own. What is reported of it follows from its own attempt and
the time limit, and a delivery comes to the reports of all its channels, whatever else the
dispatcher delivers in the meantime.
-/

namespace SensorAlerting.Delivery

open SensorAlerting.Number SensorAlerting.Time

def ownReport (timeout : Value) (name : String) : Ending -> Report
  | .reported report => report
  | .raised reason => .ofDetail name .failed reason
  | .expired => .ofDetail name .failed (Dispatcher.timedOutText timeout)

/-- The report on one channel, told by nothing but that channel, the limit and the alert. -/
def reportOver (timeout : Value) (now : Moment) (begun : Int) (alert : Alert) (name : String)
    (channel : Option Channel) : Report :=
  match channel with
  | none => .ofDetail name .skipped "unknown_channel"
  | some channel =>
    let attempt := channel.send alert now ⟨begun, 0⟩
    let timedOut := Report.ofDetail name .failed (Dispatcher.timedOutText timeout)
    match Limit.ofValue timeout with
    | .absent | .upTo none => ownReport timeout name attempt.ending
    | .upTo (some wait) =>
      if attempt.finish.any fun finish => decide (finish.instant <= dueAt begun wait) then
        ownReport timeout name attempt.ending
      else timedOut
    | .spent => timedOut
    | .unusable reason => .ofDetail name .failed reason

/-- Whether the part of a channel in a delivery is settled by the clock: under a limit it is not
over just when the limit is due, and without one it ends. -/
def isClear (timeout : Value) (now : Moment) (begun : Int) (alert : Alert) (channel : Channel) :
    Bool :=
  let finish := (channel.send alert now ⟨begun, 0⟩).finish
  match Limit.ofValue timeout with
  | .absent | .upTo none => finish.isSome
  | .upTo (some wait) => finish.all fun past =>
      decide (reach past.instant <= dueAt begun wait) || decide (dueAt begun wait < past.instant)
  | .spent | .unusable _ => true

/-- Whether the part of a channel in a delivery is ever over, as it is under a limit. -/
def isBounded (timeout : Value) (now : Moment) (begun : Int) (alert : Alert) (channel : Channel) :
    Bool :=
  match Limit.ofValue timeout with
  | .absent | .upTo none => (channel.send alert now ⟨begun, 0⟩).finish.isSome
  | _ => true

theorem isBounded_of_isClear {timeout : Value} {now : Moment} {begun : Int} {alert : Alert}
    {channel : Channel} (clear : isClear timeout now begun alert channel = true) :
    isBounded timeout now begun alert channel = true := by
  unfold isClear isBounded at *
  dsimp only at clear
  split at clear <;> simp_all

namespace Dispatcher

variable {dispatcher : Dispatcher} {now : Moment} {alert : Alert} {name : String}

theorem reportOn_inTime (timeout : Value) (name : String) (ending : Ending) :
    reportOn timeout name .inTime ending = ownReport timeout name ending := by
  cases ending <;> rfl

def endOf (dispatcher : Dispatcher) (now : Moment) (start : Point) (alert : Alert)
    (channel : Channel) : Option Point × LimitedEnd :=
  underLimit (.ofValue dispatcher.settings.timeout) (channel.send alert now start).cutTurns start
    fun start => (channel.send alert now start).finish

theorem beginSlot_eq {channel : Channel} (start : Point)
    (found : Entries.get? dispatcher.channels name = some channel) :
    (dispatcher.beginSlot now start alert name).1 =
      { report := reportOn dispatcher.settings.timeout name
          (dispatcher.endOf now start alert channel).2 (channel.send alert now start).ending
        finish := (dispatcher.endOf now start alert channel).1
        landed := none } := by
  simp [beginSlot, found, endOf]

theorem isSome_endOf (start : Point) (channel : Channel)
    (bounded : isBounded dispatcher.settings.timeout now start.instant alert channel = true) :
    (dispatcher.endOf now start alert channel).1.isSome = true := by
  have first := (send_at channel alert now start).finish.isSome
  have next := (send_plus channel alert now start 1).finish.isSome
  unfold isBounded at bounded
  unfold endOf
  cases limited : Limit.ofValue dispatcher.settings.timeout with
  | spent => rfl
  | unusable reason => rfl
  | absent =>
    rw [limited] at bounded
    exact first.trans bounded
  | upTo wait =>
    rw [limited] at bounded
    cases wait with
    | none =>
      simpa [underLimit, cutsOff] using next.trans (first.trans bounded)
    | some wait =>
      simp only [underLimit, Option.map_some]
      split
      next => rfl
      next inTime =>
        cases finished : (channel.send alert now (start.plus 1)).finish with
        | none => exact absurd rfl (finished ▸ inTime)
        | some finish => rfl

theorem beginSlot_ends (start : Point)
    (bounded : ∀ channel ∈ Entries.get? dispatcher.channels name,
      isBounded dispatcher.settings.timeout now start.instant alert channel = true) :
    let slot := (dispatcher.beginSlot now start alert name).1
    slot.finish.isSome = true ∧ slot.landed = none := by
  cases found : Entries.get? dispatcher.channels name with
  | none => simp [beginSlot, found]
  | some channel =>
    rw [beginSlot_eq start found]
    exact ⟨isSome_endOf start channel (bounded channel found), rfl⟩

theorem beginSlot_report (start : Point)
    (clear : ∀ channel ∈ Entries.get? dispatcher.channels name,
      isClear dispatcher.settings.timeout now start.instant alert channel = true) :
    (dispatcher.beginSlot now start alert name).1.report =
      reportOver dispatcher.settings.timeout now start.instant alert name
        (Entries.get? dispatcher.channels name) := by
  cases found : Entries.get? dispatcher.channels name with
  | none => simp [beginSlot, found, reportOver]
  | some channel =>
    have settled := clear channel found
    have first := send_at channel alert now start
    have next := (send_at channel alert now (start.plus 1)).finish
    simp only [beginSlot_eq start found, reportOver, isClear, endOf] at settled ⊢
    rw [<- first.ending]
    cases limited : Limit.ofValue dispatcher.settings.timeout with
    | spent => rfl
    | unusable reason => rfl
    | absent => exact reportOn_inTime _ _ _
    | upTo wait =>
      rw [limited] at settled
      cases wait with
      | none => exact reportOn_inTime _ _ _
      | some wait =>
        rw [ended_underLimit _ next settled]
        dsimp only [Point.instant_plus]
        split
        next => exact reportOn_inTime _ _ _
        next => rfl

def Grown (bound : Bound) (before more after : List Delivered) : Prop :=
  more = [] ∧ after = before ∨ after = keepNewest bound (before ++ more)

theorem Grown.trans {bound : Bound} {first next last more others : List Delivered}
    (early : Grown bound first more next) (late : Grown bound next others last) :
    Grown bound first (more ++ others) last := by
  obtain ⟨rfl, rfl⟩ | rfl := early
  next => simpa using late
  next =>
    obtain ⟨rfl, rfl⟩ | rfl := late
    next => exact .inr (by simp)
    next => exact .inr (by rw [keepNewest_grown, List.append_assoc])

theorem Grown.after_cut {bound : Bound} {before more after : List Delivered}
    (late : Grown bound (keepNewest bound before) more after) :
    after = keepNewest bound (before ++ more) := by
  obtain ⟨rfl, rfl⟩ | rfl := late
  next => rw [List.append_nil]
  next => rw [keepNewest_grown]

theorem Grown.record {bound : Bound} {first next more : List Delivered}
    (early : Grown bound first more next) (delivered : List Delivered) :
    keepNewest bound (next ++ delivered) = keepNewest bound (first ++ (more ++ delivered)) := by
  obtain ⟨rfl, rfl⟩ | rfl := early
  next => simp
  next => rw [keepNewest_grown, List.append_assoc]

def IsIdle (dispatcher : Dispatcher) : Prop :=
  dispatcher.running = false ∨ dispatcher.queue = [] ∧ dispatcher.current = none

theorem begin_frame (dispatcher : Dispatcher) (now : Moment) (start : Point) (alert : Alert)
    (channels : Value) :
    (dispatcher.begin now start alert channels).1.deliveries = dispatcher.deliveries ∧
      (dispatcher.begin now start alert channels).1.settings = dispatcher.settings := by
  unfold Dispatcher.begin
  dsimp only
  split
  next => exact ⟨rfl, rfl⟩
  next => split <;> exact ⟨rfl, rfl⟩

structure Proceeds (before after : Dispatcher) : Prop where
  settings : after.settings = before.settings
  grown : ∃ more, Grown before.settings.history before.deliveries more after.deliveries
  idle : before.IsIdle -> after = before

theorem grown_consume (dispatcher : Dispatcher) (now : Moment) (time : Int)
    (comesFirst : Flight -> Bool) (turn : Nat) (submissions : List Submission) :
    let after := consume now time comesFirst turn dispatcher submissions
    after.settings = dispatcher.settings ∧
      ∃ more, Grown dispatcher.settings.history dispatcher.deliveries more after.deliveries := by
  dsimp only
  induction submissions generalizing dispatcher turn with
  | nil => exact ⟨rfl, [], .inl ⟨rfl, rfl⟩⟩
  | cons submission rest ih =>
    have framed := dispatcher.begin_frame now ⟨time, turn⟩ submission.alert
      (.list submission.channels)
    cases begun : dispatcher.begin now ⟨time, turn⟩ submission.alert
        (.list submission.channels) with
    | mk after outcome =>
      rw [begun] at framed
      rw [consume, begun]
      obtain ⟨sameDeliveries, sameSettings⟩ := framed
      rw [<- sameDeliveries, <- sameSettings]
      cases outcome with
      | duplicate => exact ih after turn
      | misused misuse => exact ih after turn
      | started flight =>
        dsimp only
        split
        next delivered _ =>
          obtain ⟨same, more, grown⟩ := ih (after.record delivered) (flight.land time now).turn
          exact ⟨same, delivered ++ more, Grown.trans (.inr rfl) grown⟩
        next => exact ⟨rfl, [], .inl ⟨rfl, rfl⟩⟩

theorem Proceeds.refl (dispatcher : Dispatcher) : Proceeds dispatcher dispatcher where
  settings := rfl
  grown := ⟨[], .inl ⟨rfl, rfl⟩⟩
  idle _ := rfl

theorem Proceeds.trans {first next last : Dispatcher} (early : Proceeds first next)
    (late : Proceeds next last) : Proceeds first last where
  settings := late.settings.trans early.settings
  grown := by
    obtain ⟨more, before⟩ := early.grown
    obtain ⟨others, after⟩ := late.grown
    rw [early.settings] at after
    exact ⟨more ++ others, before.trans after⟩
  idle isIdle := by
    have same := early.idle isIdle
    rw [<- same] at isIdle
    exact (late.idle isIdle).trans same

theorem proceeds_settleFirst (dispatcher : Dispatcher) (now : Moment) (time : Int)
    (comesFirst : Flight -> Bool) :
    Proceeds dispatcher (dispatcher.settleFirst now time comesFirst) := by
  unfold settleFirst
  split
  next => exact .refl dispatcher
  next going =>
    have running : dispatcher.running = true := by simpa using going
    cases busy : dispatcher.current with
    | none =>
      obtain ⟨settings, grown⟩ :=
        grown_consume dispatcher now time comesFirst 0 dispatcher.queue
      refine ⟨settings, grown, fun idle => ?_⟩
      have empty := idle.resolve_left (by simp [running])
      dsimp only
      rw [empty.1, consume, <- empty.1]
    | some flight =>
      have working : ¬ dispatcher.IsIdle := by simp [IsIdle, running, busy]
      dsimp only
      split
      next delivered _ =>
        let recorded := { dispatcher with current := none }.record delivered
        obtain ⟨settings, more, grown⟩ := grown_consume recorded now time comesFirst
          (flight.land time now).turn dispatcher.queue
        exact ⟨settings, ⟨delivered ++ more, .trans (.inr rfl) grown⟩,
          fun idle => absurd idle working⟩
      next => exact ⟨rfl, ⟨[], .inl ⟨rfl, rfl⟩⟩, fun idle => absurd idle working⟩

end Dispatcher

namespace Flight

variable {flight : Flight} {now : Moment} {reports : List Report}

structure Awaited (now : Moment) (reports : List Report) (slots : List Slot) : Prop where
  reports : slots.map Slot.report = reports
  ends : ∀ slot ∈ slots, slot.finish.isSome = true
  landed : ∀ slot ∈ slots, ∀ landed ∈ slot.landed, landed = now

theorem Awaited.land {slots : List Slot} (awaited : Awaited now reports slots) (time : Int) :
    Awaited now reports (slots.map (Slot.land time now)) := by
  have same : ∀ slot : Slot, (slot.land time now).report = slot.report ∧
      (slot.land time now).finish = slot.finish := by
    intro slot
    obtain same | ⟨-, same⟩ := slot.land_cases time now <;> simp [same]
  constructor
  next =>
    rw [List.map_map, <- awaited.reports]
    exact List.map_congr_left fun slot _ => (same slot).1
  next =>
    intro slot member
    obtain ⟨before, known, rfl⟩ := List.mem_map.mp member
    rw [(same before).2]
    exact awaited.ends before known
  next =>
    intro slot member landed isLanded
    obtain ⟨before, known, rfl⟩ := List.mem_map.mp member
    obtain unchanged | ⟨-, lands⟩ := before.land_cases time now
    next =>
      rw [unchanged] at isLanded
      exact awaited.landed before known landed isLanded
    next =>
      rw [lands] at isLanded
      exact (Option.some.inj isLanded).symm

def arrivals (now : Moment) (reports : List Report) : List Delivered :=
  reports.map fun report => { report, timestamp := now }

theorem Awaited.delivered_eq {slots : List Slot} (awaited : Awaited now reports slots)
    {delivered : List Delivered} (arrived : slots.mapM Slot.delivered? = some delivered) :
    delivered = arrivals now reports := by
  obtain ⟨rfl, -, landed⟩ := awaited
  induction slots generalizing delivered with
  | nil =>
    obtain rfl := Option.some.inj arrived
    rfl
  | cons slot rest ih =>
    simp only [List.mapM_cons, bind, Option.bind_eq_some_iff] at arrived
    obtain ⟨first, isFirst, later, isLater, same⟩ := arrived
    obtain rfl := Option.some.inj same
    obtain ⟨landedAt, isLanded, rfl⟩ := Option.map_eq_some_iff.mp isFirst
    obtain rfl := landed slot List.mem_cons_self landedAt isLanded
    obtain rfl := ih isLater fun slot member => landed slot (List.mem_cons_of_mem _ member)
    rfl

theorem aloft_of_mapM {slots : List Slot} (away : slots.mapM Slot.delivered? = none) :
    ∃ slot ∈ slots, slot.landed = none := by
  induction slots with
  | nil => cases away
  | cons slot rest ih =>
    cases landed : slot.landed with
    | none => exact ⟨slot, List.mem_cons_self, landed⟩
    | some landedAt =>
      cases later : rest.mapM Slot.delivered? with
      | none =>
        obtain ⟨other, member, isAloft⟩ := ih later
        exact ⟨other, List.mem_cons_of_mem _ member, isAloft⟩
      | some delivered => simp [Slot.delivered?, landed, later, bind] at away

theorem nextDue_ne_none (awaited : Awaited now reports flight.slots)
    (away : flight.delivered? = none) : flight.nextDue ≠ none := by
  obtain ⟨slot, member, isAloft⟩ := aloft_of_mapM away
  obtain ⟨finish, isFinish⟩ := Option.isSome_iff_exists.mp (awaited.ends slot member)
  intro quiet
  have notDue := earliest_eq_none.mp quiet _ (List.mem_map_of_mem member)
  simp [Slot.nextDue, isAloft, isFinish] at notDue

end Flight

theorem awaited_begin (dispatcher : Dispatcher) (now : Moment) (start : Point) (alert : Alert)
    {names : List String} (bounded : ∀ name ∈ names,
      ∀ channel ∈ Entries.get? dispatcher.channels name,
        isBounded dispatcher.settings.timeout now start.instant alert channel = true) :
    Flight.Awaited now
      (names.map fun name => (dispatcher.beginSlot now start alert name).1.report)
      ((names.map (dispatcher.beginSlot now start alert)).map Prod.fst) := by
  have slot := fun name member => @Dispatcher.beginSlot_ends dispatcher now alert name start
    (bounded name member)
  rw [List.map_map]
  constructor
  next => rw [List.map_map]; rfl
  next =>
    intro begun member
    obtain ⟨name, isName, rfl⟩ := List.mem_map.mp member
    exact (slot name isName).1
  next =>
    intro begun member landed isLanded
    obtain ⟨name, isName, rfl⟩ := List.mem_map.mp member
    rw [Function.comp_apply, (slot name isName).2] at isLanded
    cases isLanded

namespace Station

variable {first : Dispatcher} {now : Moment} {reports : List Report} {station : Station}

structure Underway (first : Dispatcher) (now : Moment) (reports : List Report)
    (station : Station) (flight : Flight) : Prop where
  direct : station.direct = some flight
  awaited : Flight.Awaited now reports flight.slots
  proceeds : first.Proceeds station.dispatcher

/-- A direct delivery that has arrived: its results are among those of the dispatcher, in one piece,
and alone if the background consumer had nothing to do. -/
structure Arrived (first : Dispatcher) (now : Moment) (reports : List Report)
    (station : Station) : Prop where
  direct : station.direct = none
  delivered : station.delivered = Flight.arrivals now reports
  recorded : ∃ earlier later, station.dispatcher.deliveries =
      keepNewest first.settings.history
        (first.deliveries ++ earlier ++ Flight.arrivals now reports ++ later) ∧
    (first.IsIdle -> earlier = [] ∧ later = [])

theorem recorded_between {next last : Dispatcher} {delivered : List Delivered}
    (before : first.Proceeds next) (after : (next.record delivered).Proceeds last) :
    ∃ earlier later, last.deliveries =
        keepNewest first.settings.history (first.deliveries ++ earlier ++ delivered ++ later) ∧
      (first.IsIdle -> earlier = [] ∧ later = []) := by
  by_cases idle : first.IsIdle
  next =>
    obtain rfl := before.idle idle
    obtain rfl := after.idle idle
    exact ⟨[], [], by simp [Dispatcher.record], fun _ => ⟨rfl, rfl⟩⟩
  next =>
    obtain ⟨earlier, early⟩ := before.grown
    obtain ⟨later, late⟩ := after.grown
    have recorded : (next.record delivered).deliveries =
        keepNewest first.settings.history (first.deliveries ++ (earlier ++ delivered)) := by
      rw [<- early.record, Dispatcher.record, before.settings]
    have history : (next.record delivered).settings.history = first.settings.history :=
      congrArg DispatcherSettings.history before.settings
    rw [history, recorded] at late
    refine ⟨earlier, later, ?_, fun isIdle => absurd isIdle idle⟩
    rw [late.after_cut]
    simp only [List.append_assoc]

theorem wake_underway {flight : Flight} (underway : Underway first now reports station flight)
    (time : Int) :
    (∃ flight, Underway first now reports (station.wake now time) flight ∧
        flight.delivered? = none) ∨
      Arrived first now reports (station.wake now time) := by
  unfold wake
  rw [underway.direct, Option.map_some]
  dsimp only [Option.bind_some]
  cases arrived : (flight.land time now).delivered? with
  | none =>
    exact .inl ⟨flight.land time now, ⟨rfl, underway.awaited.land time,
      underway.proceeds.trans (Dispatcher.proceeds_settleFirst _ now time _)⟩, arrived⟩
  | some delivered =>
    obtain rfl := (underway.awaited.land time).delivered_eq arrived
    exact .inr ⟨rfl, rfl, recorded_between
      (underway.proceeds.trans (Dispatcher.proceeds_settleFirst _ now time _))
      (Dispatcher.proceeds_settleFirst _ now time _)⟩

theorem arrived_waitFor {flight : Flight} (underway : Underway first now reports station flight) :
    Arrived first now reports
      ((station.settle now).waitFor now (fun station => station.direct.isNone) none) := by
  let keeps (station : Station) : Prop :=
    (∃ flight, Underway first now reports station flight ∧ flight.delivered? = none) ∨
      Arrived first now reports station
  have wakes : ∀ station time, keeps station -> station.direct.isNone = false ->
      keeps (station.wake now time) := by
    intro station time kept away
    obtain ⟨flight, underway, -⟩ | arrived := kept
    next => exact wake_underway underway time
    next => simp [arrived.direct] at away
  obtain ⟨time, last, same, kept, ended⟩ :=
    @waitFor_spec now (station.settle now) (fun station => station.direct.isNone) none keeps wakes
      (wake_underway underway station.time)
  have arrived : Arrived first now reports last := by
    obtain ⟨flight, underway, away⟩ | arrived := kept
    next =>
      -- Something is still due then, so that the wait goes on.
      exfalso
      cases ended with
      | reached there => simp [underway.direct] at there
      | overdue limit isLimit => cases isLimit
      | quiet nothing =>
        have direct := earliest_eq_none.mp nothing (some flight >>= Flight.nextDue) (by
          rw [<- underway.direct]
          simp)
        exact Flight.nextDue_ne_none underway.awaited away direct
    next => exact arrived
  rw [same]
  exact ⟨arrived.direct, arrived.delivered, arrived.recorded⟩

theorem notify_begun {alert : Alert} {channels : Value} {flight : Flight}
    (begun : station.dispatcher.begin now ⟨station.time, 0⟩ alert channels =
      (first, .started flight)) (awaited : Flight.Awaited now reports flight.slots) :
    (station.notify now alert channels).2 = .summary
        { alertId := alert.alertId, timestamp := now
          deliveries := Flight.arrivals now reports, duplicate := false } ∧
      ∃ earlier later, (station.notify now alert channels).1.dispatcher.deliveries =
          keepNewest first.settings.history
            (first.deliveries ++ earlier ++ Flight.arrivals now reports ++ later) ∧
        (first.IsIdle -> earlier = [] ∧ later = []) := by
  let started : Station :=
    { station with dispatcher := first, direct := some flight, delivered := [] }
  have underway : Underway first now reports started flight := ⟨rfl, awaited, .refl first⟩
  have arrived := arrived_waitFor underway
  unfold notify
  rw [begun]
  dsimp only
  rw [arrived.delivered]
  exact ⟨rfl, arrived.recorded⟩

theorem requestedNames_texts (names : List String) :
    Dispatcher.requestedNames (.list (names.map .text)) =
      .ok (distinct (names.map Text.lower)) := by
  have read : (names.map Value.text).mapM Dispatcher.nameOf = .ok (names.map Text.lower) := by
    induction names with
    | nil => rfl
    | cons name rest ih =>
      rw [List.map_cons, List.mapM_cons, ih]
      rfl
  simp [Dispatcher.requestedNames, Value.asItems, read, bind, Except.bind]

theorem begin_texts {dispatcher : Dispatcher} {alert : Alert} (start : Point)
    (fresh : (dispatcher.purge now).isDuplicate now alert = false) (names : List String) :
    let marked := (dispatcher.purge now).markSeen now alert
    let begun := (distinct (names.map Text.lower)).map
      (marked.beginSlot now (start.plus 1) alert)
    dispatcher.begin now start alert (.list (names.map .text)) =
      ({ marked with sent := marked.sent ++ begun.flatMap Prod.snd },
        .started (.ofSlots alert.alertId start (begun.map Prod.fst))) := by
  simp [Dispatcher.begin, fresh, requestedNames_texts]

end Station

def resultsOver (dispatcher : Dispatcher) (now : Moment) (begun : Int) (alert : Alert)
    (names : List String) : List Delivered :=
  (distinct (names.map Text.lower)).map fun name =>
    { report := reportOver dispatcher.settings.timeout now begun alert name
        (Entries.get? dispatcher.channels name)
      timestamp := now }

/-- A notification that repeats no other returns, for each name asked for, what its channel alone
leads to, and records just this. -/
theorem notify_by_channel (station : Station) (now : Moment) (alert : Alert) (names : List String)
    (fresh : (station.dispatcher.purge now).isDuplicate now alert = false)
    (clear : ∀ name ∈ names.map Text.lower,
      ∀ channel ∈ Entries.get? station.dispatcher.channels name,
        isClear station.dispatcher.settings.timeout now station.time alert channel = true) :
    let results := resultsOver station.dispatcher now station.time alert names
    let (after, notified) := station.notify now alert (.list (names.map .text))
    notified = .summary
        { alertId := alert.alertId, timestamp := now, deliveries := results, duplicate := false } ∧
      ∃ earlier later, after.dispatcher.deliveries =
          keepNewest station.dispatcher.settings.history
            (station.dispatcher.deliveries ++ earlier ++ results ++ later) ∧
        (station.dispatcher.IsIdle -> earlier = [] ∧ later = []) := by
  let marked := (station.dispatcher.purge now).markSeen now alert
  have awaited := awaited_begin marked now ⟨station.time, 1⟩ alert fun name member channel found =>
    isBounded_of_isClear (clear name (mem_distinct.mp member) channel found)
  rw [List.map_congr_left fun name member => @Dispatcher.beginSlot_report marked now alert name
    ⟨station.time, 1⟩ (clear name (mem_distinct.mp member))] at awaited
  have notified := Station.notify_begun (Station.begin_texts ⟨station.time, 0⟩ fresh names) awaited
  rw [Flight.arrivals, List.map_map] at notified
  exact notified

def gasInHall : Alert :=
  { alertId := "a", ruleId := "gas", category := .threshold, severity := .critical
    deviceId := "hall", sensorType := none, location := none, timestamp := universal 0
    value := .null, condition := none, message := "gas", details := [], event := none }

def tenSeconds : DispatcherSettings :=
  { window := 300 * second, retention := 3600 * second, timeout := .float 10
    queueSize := .ok (.whole 1000), history := some 1000 }

def mixedStation : Station :=
  .start <| .create tenSeconds
    [("Siren", .plain "siren" .instant), ("lamp", .plain "lamp" { delay := 0, reply := none }),
      ("horn", .plain "horn" { delay := 2 * wholeSecond, reply := some (.refused "no air") })]

def Notified.deliveries : Notified -> List Delivered
  | .summary told => told.deliveries
  | .misused _ => []

def Delivered.shown (delivered : Delivered) : String × Status × Option String :=
  (delivered.report.channel, delivered.report.status, delivered.report.detail)

theorem notify_by_channel_mixed :
    let names := ["LAMP", "siren", "bell", "lamp", "Horn"]
    let results := resultsOver mixedStation.dispatcher (universal 0) 0 gasInHall names
    let (after, notified) :=
      mixedStation.notify (universal 0) gasInHall (.list (names.map .text))
    results.map Delivered.shown =
        [("lamp", .failed, some "timed out after 10.0s"), ("siren", .sent, none),
          ("bell", .skipped, some "unknown_channel"), ("horn", .failed, some "no air")] ∧
      notified = .summary
        { alertId := "a", timestamp := universal 0, deliveries := results, duplicate := false } ∧
      ∃ earlier later, after.dispatcher.deliveries =
          keepNewest (some 1000) ([] ++ earlier ++ results ++ later) ∧
        (mixedStation.dispatcher.IsIdle -> earlier = [] ∧ later = []) := by
  refine ⟨by decide +kernel, ?_⟩
  exact notify_by_channel mixedStation (universal 0) gasInHall
    ["LAMP", "siren", "bell", "lamp", "Horn"] (by decide +kernel) (by decide +kernel)

/-- An error that says that time has run out is reported as if it had, though nothing was waited
for, and without the text that it has itself. -/
theorem expired_at_once :
    let siren := Channel.plain "siren" { delay := 0, reply := some .expired }
    let station := Station.start (.create tenSeconds [("siren", siren)])
    let notified := (station.notify (universal 0) gasInHall (.list [.text "siren"])).2
    (siren.send gasInHall (universal 0) ⟨0, 0⟩).finish.map Point.instant = some 0 ∧
      notified.deliveries.map Delivered.shown =
        [("siren", .failed, some "timed out after 10.0s")] := by
  decide +kernel

end SensorAlerting.Delivery
