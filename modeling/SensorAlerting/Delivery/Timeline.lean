import SensorAlerting.Delivery.Dispatcher

set_option autoImplicit false

namespace SensorAlerting.Delivery

open SensorAlerting.Number SensorAlerting.Time

/-- A dispatcher at an instant of the timeline, a direct delivery on its way, and what came of the
last one. -/
structure Station where
  time : Int
  dispatcher : Dispatcher
  direct : Option Flight
  delivered : List Delivered

inductive Notified where
  | summary (summary : Summary)
  | misused (misuse : Misuse)

namespace Station

def start (dispatcher : Dispatcher) : Station :=
  { time := 0, dispatcher, direct := none, delivered := [] }

/-- Lets everything go on that can at an instant. A direct delivery that arrives is recorded in its
turn among those of the background consumer. -/
def wake (now : Moment) (time : Int) (station : Station) : Station :=
  let direct := station.direct.map (Flight.land time now)
  match direct.bind Flight.delivered? with
  | none =>
    { station with time, dispatcher := station.dispatcher.settle now time, direct }
  | some delivered =>
    let earlier := station.dispatcher.settleFirst now time fun flight =>
      direct.all flight.isAheadOf
    { time
      dispatcher := (earlier.record delivered).settle now time
      direct := none
      delivered }

def agenda (now : Moment) : Agenda Station :=
  { next := fun station =>
      earliest [station.dispatcher.nextDue, station.direct.bind Flight.nextDue]
    wake := wake now }

def settle (now : Moment) (station : Station) : Station := station.wake now station.time

def load (station : Station) : Nat :=
  station.dispatcher.load + (station.direct.map Flight.aloft).getD 0

/-- Waits until a state is reached, at most until an instant. Something lands at each instant that
is come to. -/
def waitFor (now : Moment) (reached : Station -> Bool) (limit : Option Int) (station : Station) :
    Station :=
  let (time, station) :=
    (agenda now).runUntil reached limit (station.load + 1) station.time station
  { station with time }

def sleep (now : Moment) (seconds : Value) (station : Station) : Except Misuse Station := do
  let seconds <- seconds.asQuantity
  match <- (waitOf seconds).mapError .ofFault with
  | some wait =>
    let target := after station.time (max 0 wait)
    let (time, station) := (agenda now).runThrough target station.time station
    .ok { station with time }
  | none => .ok station

def notify (now : Moment) (alert : Alert) (channels : Value) (station : Station) :
    Station × Notified :=
  let alertId := alert.alertId
  match station.dispatcher.begin now ⟨station.time, 0⟩ alert channels with
  | (dispatcher, .duplicate) =>
    ({ station with dispatcher },
      .summary { alertId, timestamp := now, deliveries := [], duplicate := true })
  | (dispatcher, .misused misuse) => ({ station with dispatcher }, .misused misuse)
  | (dispatcher, .started flight) =>
    let station := { station with dispatcher, direct := some flight, delivered := [] }.settle now
    let station := station.waitFor now (fun station => station.direct.isNone) none
    ({ station with direct := none },
      .summary { alertId, timestamp := now, deliveries := station.delivered, duplicate := false })

def cancel (station : Station) : Station :=
  { station with dispatcher := station.dispatcher.cancel }

def cancelTurn : Nat := 4

/-- Waits until the queue has been delivered, at most until an instant. What arrives at that instant
before the background consumer is ended still counts. -/
def drain (now : Moment) (limit : Option Int) (station : Station) : Station :=
  let station :=
    (station.settle now).waitFor now (fun station => station.dispatcher.isDrained) limit
  { station with
    dispatcher := station.dispatcher.settleFirst now station.time fun flight =>
      decide (flight.turn < cancelTurn) }

/-- Waits until the queue has been delivered, at most for a while, and ends the background
consumer. -/
def stop (now : Moment) (patience : Value) (station : Station) : Except Misuse Station :=
  if !station.dispatcher.running then .ok station.cancel
  else match Limit.ofValue patience with
  | .absent => .ok (station.drain now none).cancel
  | .spent => .ok station.cancel
  | .upTo wait => .ok (station.drain now (wait.map (after station.time))).cancel
  | .unusable _ => .error (if patience.asQuantity.isOk then .tooLarge else .wrongKind)

end Station

end SensorAlerting.Delivery
