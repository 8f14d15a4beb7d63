import SensorAlerting.Delivery.Timeline

set_option autoImplicit false

/-!
A dispatcher with any number of direct deliveries on their way. Its acts are atomic and come in any
order: deliveries begin, directly or from the queue, while attempts of others land and are recorded.
Every delivery that begins leaves a notice.
-/

namespace SensorAlerting.Delivery

open SensorAlerting.Number SensorAlerting.Time

structure Call where
  now : Moment
  start : Point
  alert : Alert
  channels : Value

def Call.begin (call : Call) (dispatcher : Dispatcher) : Dispatcher × Begun :=
  dispatcher.begin call.now call.start call.alert call.channels

def Begun.isRepeat : Begun -> Bool
  | .duplicate => true
  | _ => false

structure Notice where
  now : Moment
  key : AlertKey
  repeated : Bool

def Call.notice (call : Call) (dispatcher : Dispatcher) : Notice :=
  { now := call.now, key := call.alert.key, repeated := (call.begin dispatcher).2.isRepeat }

inductive Act where
  | notify (call : Call)
  | take (now : Moment) (start : Point)
  | land (place : Nat) (time : Int) (now : Moment)
  | finish (place : Nat)
  | abandon (place : Nat)
  | landCurrent (time : Int) (now : Moment)
  | finishCurrent
  | submit (submission : Submission)
  | start
  | cancel
  | addChannel (name : String) (channel : Channel)
  | clearDeliveries
  | takeSent

def Act.time? : Act -> Option Int
  | .notify call => some call.now.instant
  | .take now _ => some now.instant
  | _ => none

structure Traffic where
  dispatcher : Dispatcher
  direct : List Flight
  notices : List Notice

namespace Traffic

def start (settings : DispatcherSettings) (channels : List (String × Channel)) : Traffic :=
  { dispatcher := .create settings channels, direct := [], notices := [] }

def call? (traffic : Traffic) : Act -> Option Call
  | .notify call => some call
  | .take now start =>
    if traffic.dispatcher.running && traffic.dispatcher.current.isNone then
      traffic.dispatcher.queue.head?.map fun submission =>
        { now, start, alert := submission.alert, channels := .list submission.channels }
    else none
  | _ => none

def arrive (dispatcher : Dispatcher) (flight : Flight) : Option Dispatcher :=
  flight.delivered?.map dispatcher.record

def beginDirect (traffic : Traffic) (call : Call) : Traffic :=
  match call.begin traffic.dispatcher with
  | (dispatcher, .started flight) =>
    { traffic with dispatcher, direct := traffic.direct ++ [flight] }
  | (dispatcher, _) => { traffic with dispatcher }

def beginQueued (traffic : Traffic) (call : Call) : Traffic :=
  let queue := traffic.dispatcher.queue.tail
  match call.begin traffic.dispatcher with
  | (dispatcher, .started flight) =>
    { traffic with dispatcher := { dispatcher with queue, current := some flight } }
  | (dispatcher, _) => { traffic with dispatcher := { dispatcher with queue } }

/-- What an act does; one that does not apply does nothing. -/
def perform (traffic : Traffic) (act : Act) : Traffic :=
  let dispatcher := traffic.dispatcher
  match act with
  | .notify call => traffic.beginDirect call
  | .take now start => ((traffic.call? (.take now start)).map traffic.beginQueued).getD traffic
  | .land place time now =>
    { traffic with direct := traffic.direct.modify place (Flight.land time now) }
  | .finish place =>
    match traffic.direct[place]?.bind (arrive dispatcher) with
    | some dispatcher => { traffic with dispatcher, direct := traffic.direct.eraseIdx place }
    | none => traffic
  | .abandon place => { traffic with direct := traffic.direct.eraseIdx place }
  | .landCurrent time now =>
    let current := dispatcher.current.map (Flight.land time now)
    { traffic with dispatcher := { dispatcher with current } }
  | .finishCurrent =>
    match dispatcher.current.bind (arrive { dispatcher with current := none }) with
    | some dispatcher => { traffic with dispatcher }
    | none => traffic
  | .submit submission => { traffic with dispatcher := dispatcher.submit submission }
  | .start => { traffic with dispatcher := dispatcher.start }
  | .cancel => { traffic with dispatcher := dispatcher.cancel }
  | .addChannel name channel => { traffic with dispatcher := dispatcher.addChannel name channel }
  | .clearDeliveries => { traffic with dispatcher := dispatcher.clearDeliveries }
  | .takeSent => { traffic with dispatcher := dispatcher.takeSent.2 }

def step (traffic : Traffic) (act : Act) : Traffic :=
  { traffic.perform act with
    notices := match traffic.call? act with
      | some call => call.notice traffic.dispatcher :: traffic.notices
      | none => traffic.notices }

def run (traffic : Traffic) (acts : List Act) : Traffic := acts.foldl step traffic

end Traffic

end SensorAlerting.Delivery
