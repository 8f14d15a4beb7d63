import SensorAlerting.Capacity
import SensorAlerting.Delivery.Channel
import SensorAlerting.Text.Case
import SensorAlerting.Time.Agenda
import SensorAlerting.Time.Span

set_option autoImplicit false

/-!
The dispatcher. It drops repeats of an alert, sends each alert over all its channels side by side,
and keeps the latest deliveries. Alerts may wait in a bounded queue from which a background
consumer takes one at a time.

Every operation here is atomic: a delivery begins, an attempt lands, a whole delivery is recorded.
-/

namespace SensorAlerting.Delivery

open SensorAlerting.Number SensorAlerting.Time

/-- What a dispatcher goes by. The limit on a channel's time is kept as it was stated. The size of
the queue may be none that a queue can have, which only shows when something is put into it. -/
structure DispatcherSettings where
  window : Int
  retention : Int
  timeout : Value
  queueSize : Except Misuse Quantity
  history : Bound

namespace DispatcherSettings

def create (windowSeconds retentionSeconds : Quantity) (timeout queueSize historySize : Value) :
    Except Misuse DispatcherSettings := do
  let window <- (spanOf second windowSeconds).mapError .ofFault
  let retention <- (spanOf second retentionSeconds).mapError .ofFault
  let history <- historySize.asBound
  return { window, retention, timeout, queueSize := queueSize.asQuantity, history }

def defaultWindow : Value := .int 300

def defaultRetention : Value := .int 3600

def defaultTimeout : Value := .float 10

def defaultQueueSize : Value := .int 1000

def defaultHistorySize : Value := .int 1000

def argumentNames : List String :=
  ["dedup_window_seconds", "dedup_retention_seconds", "channel_timeout_seconds", "queue_size",
    "delivery_history_size"]

def ofValue (value : Value) : Except Misuse DispatcherSettings := do
  let fields <- value.asArguments argumentNames []
  let stated := fun (name : String) (usual : Value) => (Entries.get? fields name).getD usual
  let windowSeconds <- (stated "dedup_window_seconds" defaultWindow).asQuantity
  let window <- (spanOf second windowSeconds).mapError .ofFault
  let retentionSeconds <- (stated "dedup_retention_seconds" defaultRetention).asQuantity
  let retention <- (spanOf second retentionSeconds).mapError .ofFault
  let history <- (stated "delivery_history_size" defaultHistorySize).asBound
  return {
    window
    retention
    timeout := stated "channel_timeout_seconds" defaultTimeout
    queueSize := (stated "queue_size" defaultQueueSize).asQuantity
    history }

end DispatcherSettings

structure Slot where
  report : Report
  finish : Option Point
  landed : Option Moment

/-- A delivery on its way: the instant at which it began, its slots, and the point at which the last
one has been handed over. -/
structure Flight where
  alertId : String
  begun : Int
  slots : List Slot
  finish : Option Point

def isDue (time : Int) (point : Option Point) : Bool :=
  point.any fun point => decide (point.instant < reach time)

namespace Slot

def land (time : Int) (now : Moment) (slot : Slot) : Slot :=
  if slot.landed.isNone && isDue time slot.finish then { slot with landed := some now } else slot

def delivered? (slot : Slot) : Option Delivered :=
  slot.landed.map fun timestamp => { report := slot.report, timestamp }

def nextDue (slot : Slot) : Option Int :=
  if slot.landed.isSome then none else slot.finish.map Point.instant

end Slot

namespace Flight

def ofSlots (alertId : String) (start : Point) (slots : List Slot) : Flight :=
  { alertId
    begun := start.instant
    slots
    finish :=
      if slots.isEmpty then some start
      else (latest start (slots.map Slot.finish)).map Point.handOver }

def land (time : Int) (now : Moment) (flight : Flight) : Flight :=
  { flight with slots := flight.slots.map (Slot.land time now) }

def delivered? (flight : Flight) : Option (List Delivered) := flight.slots.mapM Slot.delivered?

def nextDue (flight : Flight) : Option Int := earliest (flight.slots.map Slot.nextDue)

def aloft (flight : Flight) : Nat := flight.slots.countP fun slot => slot.landed.isNone

def turn (flight : Flight) : Nat := (flight.finish.map Point.turn).getD 0

/-- Whether a flight is over before another one that is over at the same instant: by its turn, by
the instant that it was due, and by the instant at which it began. -/
def isAheadOf (flight other : Flight) : Bool :=
  match flight.finish, other.finish with
  | some left, some right =>
    if left.turn != right.turn then decide (left.turn < right.turn)
    else if left.instant != right.instant then decide (left.instant < right.instant)
    else decide (flight.begun <= other.begun)
  | _, _ => false

end Flight

inductive Begun where
  | duplicate
  | misused (misuse : Misuse)
  | started (flight : Flight)

structure DeliveryStats where
  total : Nat
  byChannel : Entries String Nat
  byStatus : Entries String Nat

def DeliveryStats.toValue (stats : DeliveryStats) : Value :=
  .mapping [("total", Value.ofNat stats.total), ("by_channel", Value.ofCounts stats.byChannel),
    ("by_status", Value.ofCounts stats.byStatus)]

structure Dispatcher where
  settings : DispatcherSettings
  channels : Entries String Channel
  seen : Entries AlertKey Moment
  deliveries : List Delivered
  queue : List Submission
  dropped : Nat
  running : Bool
  current : Option Flight
  sent : List (String × Request)

namespace Dispatcher

def addChannel (dispatcher : Dispatcher) (name : String) (channel : Channel) : Dispatcher :=
  { dispatcher with channels := Entries.put dispatcher.channels (Text.lower name) channel }

def create (settings : DispatcherSettings) (channels : List (String × Channel)) : Dispatcher :=
  channels.foldl (fun dispatcher entry => dispatcher.addChannel entry.1 entry.2)
    { settings
      channels := []
      seen := []
      deliveries := []
      queue := []
      dropped := 0
      running := false
      current := none
      sent := [] }

def available (dispatcher : Dispatcher) : List String := Entries.keys dispatcher.channels

def pending (dispatcher : Dispatcher) : Nat := dispatcher.queue.length

def isDuplicate (dispatcher : Dispatcher) (now : Moment) (alert : Alert) : Bool :=
  match Entries.get? dispatcher.seen alert.key with
  | some seenAt => decide (now.since seenAt < dispatcher.settings.window)
  | none => false

def purge (dispatcher : Dispatcher) (now : Moment) : Dispatcher :=
  { dispatcher with
    seen := dispatcher.seen.filter fun entry =>
      decide (now.since entry.2 <= dispatcher.settings.retention) }

def markSeen (dispatcher : Dispatcher) (now : Moment) (alert : Alert) : Dispatcher :=
  { dispatcher with seen := Entries.put dispatcher.seen alert.key now }

/-- Whether a queue of some size has no place left. One whose size is not positive has no bound. -/
def isFull (size : Quantity) (count : Nat) : Bool :=
  !size.isAtMost (.whole 0) && size.isAtMost (.whole count)

def submit (dispatcher : Dispatcher) (submission : Submission) : Dispatcher :=
  match dispatcher.settings.queueSize with
  | .ok size =>
    if isFull size dispatcher.queue.length then
      { dispatcher with dropped := dispatcher.dropped + 1 }
    else { dispatcher with queue := dispatcher.queue ++ [submission] }
  | .error _ => dispatcher

def submitAll (dispatcher : Dispatcher) (submissions : List Submission) : Dispatcher :=
  submissions.foldl submit dispatcher

def submitBy (dispatcher : Dispatcher) (alert : Alert) (channels : Value) :
    Except Misuse Dispatcher := do
  let channels <- channels.asItems
  let _ <- dispatcher.settings.queueSize
  .ok (dispatcher.submit { alert, channels })

def nameOf : Value -> Except Misuse String
  | .text name => .ok (Text.lower name)
  | _ => .error .noSuchPart

def requestedNames (channels : Value) : Except Misuse (List String) := do
  let names <- (<- channels.asItems).mapM nameOf
  .ok (distinct names)

def timedOutText (limit : Value) : String := "timed out after " ++ limit.plainText ++ "s"

def reportOn (limit : Value) (name : String) (limited : LimitedEnd) (ending : Ending) : Report :=
  let failed := Report.ofDetail name .failed
  match limited, ending with
  | .cutOff, _ => failed (timedOutText limit)
  | .failed reason, _ => failed reason
  | .inTime, .reported report => report
  | .inTime, .raised reason => failed reason
  | .inTime, .expired => failed (timedOutText limit)

/-- Starts the attempt of one channel under the time limit of the dispatcher. A limit of no time at
all leaves nothing sent. -/
def beginSlot (dispatcher : Dispatcher) (now : Moment) (start : Point) (alert : Alert)
    (name : String) : Slot × List (String × Request) :=
  match Entries.get? dispatcher.channels name with
  | none =>
    ({ report := .ofDetail name .skipped "unknown_channel", finish := some start, landed := none },
      [])
  | some channel =>
    let limit := Limit.ofValue dispatcher.settings.timeout
    let attempt := fun (start : Point) => channel.send alert now start
    let begun := attempt start
    let (finish, limited) :=
      underLimit limit begun.cutTurns start fun start => (attempt start).finish
    ({ report := reportOn dispatcher.settings.timeout name limited begun.ending
       finish
       landed := none },
      if limit.admits then begun.requests else [])

/-- Begins the delivery of an alert: it is a repeat, or it is marked as seen and sent to every
channel asked for. -/
def begin (dispatcher : Dispatcher) (now : Moment) (start : Point) (alert : Alert)
    (channels : Value) : Dispatcher × Begun :=
  let dispatcher := dispatcher.purge now
  if dispatcher.isDuplicate now alert then (dispatcher, .duplicate)
  else
    let dispatcher := dispatcher.markSeen now alert
    match requestedNames channels with
    | .error misuse => (dispatcher, .misused misuse)
    | .ok names =>
      let begun := names.map (dispatcher.beginSlot now (start.plus 1) alert)
      ({ dispatcher with sent := dispatcher.sent ++ begun.flatMap Prod.snd },
        .started (.ofSlots alert.alertId start (begun.map Prod.fst)))

def record (dispatcher : Dispatcher) (delivered : List Delivered) : Dispatcher :=
  { dispatcher with
    deliveries := keepNewest dispatcher.settings.history (dispatcher.deliveries ++ delivered) }

/-- What a flight has delivered, once it is over and if it comes first. -/
def arrived? (comesFirst : Flight -> Bool) (flight : Flight) : Option (List Delivered) :=
  if comesFirst flight then flight.delivered? else none

/-- Takes alerts from the front of a queue until one of them is still on its way at this time, or
something else comes before it. The rest of the queue stays. -/
def consume (now : Moment) (time : Int) (comesFirst : Flight -> Bool) :
    Nat -> Dispatcher -> List Submission -> Dispatcher
  | _, dispatcher, [] => { dispatcher with queue := [] }
  | turn, dispatcher, submission :: rest =>
    match dispatcher.begin now ⟨time, turn⟩ submission.alert (.list submission.channels) with
    | (dispatcher, .duplicate) => consume now time comesFirst turn dispatcher rest
    | (dispatcher, .misused _) => consume now time comesFirst turn dispatcher rest
    | (dispatcher, .started flight) =>
      let flight := flight.land time now
      match arrived? comesFirst flight with
      | some delivered =>
        consume now time comesFirst flight.turn (dispatcher.record delivered) rest
      | none => { dispatcher with queue := rest, current := some flight }

def settleFirst (dispatcher : Dispatcher) (now : Moment) (time : Int)
    (comesFirst : Flight -> Bool) : Dispatcher :=
  if !dispatcher.running then dispatcher
  else match dispatcher.current with
  | none => consume now time comesFirst 0 dispatcher dispatcher.queue
  | some flight =>
    let flight := flight.land time now
    match arrived? comesFirst flight with
    | some delivered =>
      consume now time comesFirst flight.turn ({ dispatcher with current := none }.record delivered)
        dispatcher.queue
    | none => { dispatcher with current := some flight }

def settle (dispatcher : Dispatcher) (now : Moment) (time : Int) : Dispatcher :=
  dispatcher.settleFirst now time fun _ => true

def nextDue (dispatcher : Dispatcher) : Option Int :=
  if dispatcher.running then dispatcher.current.bind Flight.nextDue else none

def asked (submissions : List Submission) : Nat :=
  submissions.foldr (fun submission total => submission.channels.length + total) 0

def load (dispatcher : Dispatcher) : Nat :=
  (dispatcher.current.map Flight.aloft).getD 0 + asked dispatcher.queue

def isDrained (dispatcher : Dispatcher) : Bool :=
  dispatcher.queue.isEmpty && dispatcher.current.isNone

def start (dispatcher : Dispatcher) : Dispatcher := { dispatcher with running := true }

/-- Ends the background consumer. A delivery on its way is given up; the queue stays. -/
def cancel (dispatcher : Dispatcher) : Dispatcher :=
  { dispatcher with running := false, current := none }

def stats (dispatcher : Dispatcher) : DeliveryStats :=
  { total := dispatcher.deliveries.length
    byChannel := Entries.tally (dispatcher.deliveries.map fun delivered =>
      delivered.report.channel)
    byStatus := Entries.tally (dispatcher.deliveries.map fun delivered =>
      delivered.report.status.name) }

def recent (dispatcher : Dispatcher) (limit : Int) : List Delivered :=
  newest limit dispatcher.deliveries

def recentBy (dispatcher : Dispatcher) (limit : Value) : Except Misuse (List Delivered) :=
  newestBy limit dispatcher.deliveries

def clearDeliveries (dispatcher : Dispatcher) : Dispatcher := { dispatcher with deliveries := [] }

def takeSent (dispatcher : Dispatcher) : List (String × Request) × Dispatcher :=
  (dispatcher.sent, { dispatcher with sent := [] })

end Dispatcher

end SensorAlerting.Delivery
