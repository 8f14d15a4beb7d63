import SensorAlerting.Worker.Basic

set_option autoImplicit false

/-!
A worker that several parties use at a time: the consumer of its stream, callers from outside, and
those who stop it. Whoever brings an event waits at a lock, and has the worker for itself from the
evaluation of the event until the event is counted. In between others may come and wait. Whoever
stops the worker waits at the same lock, and cancels the consumer while nobody is inside. The
consumer is interrupted only later, wherever it is then.
-/

namespace SensorAlerting

open SensorAlerting.Time

inductive Party where
  | consumer
  | caller (place : Nat)
deriving DecidableEq, Repr

inductive Attendance where
  | asking
  | bringing
  | over
deriving DecidableEq, Repr

structure Turn where
  party : Party
  event : Event
  alerts : List Alert

inductive Mark where
  | evaluated (party : Party) (event : Event)
  | refused (party : Party) (event : Event)
  | saving (event : Event)
  | saved (event : Event) (success : Bool)
  | counted (event : Event)
  | cancelled
  | abandoned (event : Event)

structure Booth where
  worker : Worker
  waiting : List (Party × Event)
  turn : Option Turn
  consumer : Attendance
  cancelled : Bool
  stops : Nat
  marks : List Mark

inductive Act where
  | give (place : Nat) (event : Event)
  | call (place : Nat) (now : Moment) (payload : Value)
  | receive (now : Moment) (payload : Value)
  | leave
  | enter (place : Nat) (now : Moment)
  | finish (success : Bool) (now : Moment)
  | stop
  | halt
  | interrupt

namespace Booth

def start (worker : Worker) (consuming : Bool) : Booth :=
  { worker
    waiting := []
    turn := none
    consumer := if consuming then .asking else .over
    cancelled := false
    stops := 0
    marks := [] }

def await (booth : Booth) (party : Party) (event : Event) : Booth :=
  { booth with waiting := booth.waiting ++ [(party, event)] }

def reject (booth : Booth) (fault : PayloadFault) : Booth :=
  if Worker.isCounted fault then { booth with worker := booth.worker.fail } else booth

def call (booth : Booth) (place : Nat) (now : Moment) (payload : Value) : Booth :=
  match Event.ofPayload now payload with
  | .ok event => booth.await (.caller place) event
  | .error fault => booth.reject fault

/-- The consumer gets a payload from its stream, and passes it over once the worker is stopped. -/
def receive (booth : Booth) (now : Moment) (payload : Value) : Booth :=
  if booth.consumer == .asking && !booth.cancelled then
    if booth.worker.running then
      match Event.ofPayload now payload with
      | .ok event => { booth with consumer := .bringing }.await .consumer event
      | .error fault => booth.reject fault
    else { booth with consumer := .over }
  else booth

def leave (booth : Booth) : Booth :=
  if booth.consumer == .asking && !booth.cancelled then { booth with consumer := .over } else booth

/-- Who has been cancelled while it waits does not get in any more. -/
def admits (booth : Booth) (party : Party) : Bool := !(party == .consumer && booth.cancelled)

def release (booth : Booth) (party : Party) : Booth :=
  if party == .consumer then { booth with consumer := .asking } else booth

/-- One of those who wait gets in while nobody is inside. Its event is evaluated, and a snapshot is
asked for. -/
def enter (booth : Booth) (place : Nat) (now : Moment) : Booth :=
  match booth.turn, booth.waiting[place]? with
  | none, some (party, event) =>
    if booth.admits party then
      let booth := { booth with waiting := booth.waiting.eraseIdx place }
      match booth.worker.evaluate now event with
      | (worker, .ok alerts) =>
        { booth with
          worker := worker.ask event
          turn := some { party, event, alerts }
          marks := booth.marks ++ .evaluated party event :: (worker.sink.asked event).map .saving }
      | (worker, .error _) =>
        let refused : Booth :=
          { booth with worker := worker.fail, marks := booth.marks ++ [.refused party event] }
        refused.release party
    else booth
  | _, _ => booth

def finish (booth : Booth) (success : Bool) (now : Moment) : Booth :=
  match booth.turn with
  | some turn =>
    let saved := if success then booth.worker.keep turn.event else booth.worker
    let counted : Booth :=
      { booth with
        worker := (saved.conclude now turn.alerts).1
        turn := none
        marks := booth.marks ++
          (booth.worker.sink.asked turn.event).map (Mark.saved · success) ++
            [.counted turn.event] }
    counted.release turn.party
  | none => booth

def stop (booth : Booth) : Booth :=
  if booth.worker.running then
    { booth with worker := { booth.worker with running := false }, stops := booth.stops + 1 }
  else booth

/-- Whoever stops the worker gets in while nobody is inside, and cancels the consumer. -/
def halt (booth : Booth) : Booth :=
  match booth.turn, booth.stops with
  | none, stops + 1 =>
    { booth with
      stops
      cancelled := booth.consumer != .over
      marks := booth.marks ++ [.cancelled] }
  | _, _ => booth

/-- A consumer that was cancelled is interrupted: it leaves off what it does, be it inside. -/
def interrupt (booth : Booth) : Booth :=
  if booth.cancelled then
    let gone :=
      { booth with
        waiting := booth.waiting.filter fun waiter => waiter.1 != .consumer
        consumer := .over
        cancelled := false }
    match booth.turn with
    | some turn =>
      if turn.party == .consumer then
        { gone with turn := none, marks := booth.marks ++ [.abandoned turn.event] }
      else gone
    | none => gone
  else booth

def step (booth : Booth) : Act -> Booth
  | .give place event => booth.await (.caller place) event
  | .call place now payload => booth.call place now payload
  | .receive now payload => booth.receive now payload
  | .leave => booth.leave
  | .enter place now => booth.enter place now
  | .finish success now => booth.finish success now
  | .stop => booth.stop
  | .halt => booth.halt
  | .interrupt => booth.interrupt

def run (booth : Booth) (acts : List Act) : Booth := acts.foldl step booth

end Booth

end SensorAlerting
