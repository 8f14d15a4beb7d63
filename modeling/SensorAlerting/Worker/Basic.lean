import SensorAlerting.Delivery.Dispatcher
import SensorAlerting.RuleStore
import SensorAlerting.Snapshot.Memory
import SensorAlerting.Worker.Evaluators

set_option autoImplicit false

/-!
The worker. It turns a payload into an event, runs the evaluators over it, hands their alerts to
the dispatcher, keeps a snapshot, and counts. Each event is one indivisible step. The worker also
keeps a log of the snapshots that it has asked for.
-/

namespace SensorAlerting

open SensorAlerting.Delivery SensorAlerting.Detection SensorAlerting.Number SensorAlerting.Time

structure WorkerSettings where
  sensorTimeout : Quantity
  checkSeconds : Quantity
  failureChannels : List String
  slowEventSeconds : Quantity
  rateWindow : Int

inductive Sink where
  | nowhere
  | failing
  | memory (kept : Snapshot.Memory)

/-- Keeps a snapshot; a store that fails is as good as none. -/
def Sink.save (sink : Sink) (event : Event) : Sink :=
  match sink with
  | .memory kept => .memory (kept.save event).1
  | .nowhere => .nowhere
  | .failing => .failing

def Sink.asked (sink : Sink) (event : Event) : List Event :=
  match sink with
  | .nowhere => []
  | _ => [event]

structure Worker where
  settings : WorkerSettings
  rules : RuleStore
  evaluators : Evaluators
  sink : Sink
  saves : List Event
  dispatcher : Dispatcher
  serial : Nat
  running : Bool
  processed : Nat
  errors : Nat
  startedAt : Option Moment
  recent : List Moment

inductive ProcessingCause where
  | payload (fault : PayloadFault)
  | evaluation (fault : EvaluationFault)
deriving DecidableEq, Repr

/-- What a worker fails with: a counted failure on one event, a payload whose time is beyond every
clock, or a rate window that reaches back before the calendar. -/
inductive WorkerFault where
  | processing (deviceId : Value) (cause : ProcessingCause)
  | timestamp (fault : TimestampFault)
  | rateWindow

inductive MetricsFault where
  | rateWindow
  | emptyRateWindow
deriving DecidableEq, Repr

structure Metrics where
  running : Bool
  uptimeSeconds : Int
  processed : Nat
  errors : Nat
  perSecond : Float
  averagePerSecond : Float
  successRate : Float
  pending : Nat

def Metrics.toValue (metrics : Metrics) : Value :=
  .mapping [("is_running", .bool metrics.running), ("uptime_seconds", .int metrics.uptimeSeconds),
    ("processed_count", Value.ofNat metrics.processed), ("error_count", Value.ofNat metrics.errors),
    ("events_per_second", .float metrics.perSecond),
    ("average_events_per_second", .float metrics.averagePerSecond),
    ("success_rate", .float metrics.successRate),
    ("pending_notifications", Value.ofNat metrics.pending)]

namespace Worker

def create (settings : WorkerSettings) (rules : RuleStore) (evaluators : Evaluators)
    (sink : Sink) (dispatcher : Dispatcher) : Worker :=
  { settings
    rules
    evaluators
    sink
    saves := []
    dispatcher
    serial := 1
    running := false
    processed := 0
    errors := 0
    startedAt := none
    recent := [] }

/-- Whether a fault counts as a failure on one event. A time beyond every clock does not. -/
def isCounted : PayloadFault -> Bool
  | .timestamp .tooLarge => false
  | .timestamp .beyondSystem => false
  | _ => true

/-- Forgets the events before the rate window, which begins after a time this long ago. -/
def trim (worker : Worker) (now : Moment) : Except MetricsFault Worker :=
  match now.add? (-worker.settings.rateWindow) with
  | none => .error .rateWindow
  | some cutoff =>
    .ok { worker with
      recent := worker.recent.dropWhile fun moment => decide (moment.instant <= cutoff.instant) }

def count (worker : Worker) (now : Moment) : Worker :=
  { worker with processed := worker.processed + 1, recent := worker.recent ++ [now] }

def fail (worker : Worker) : Worker := { worker with errors := worker.errors + 1 }

def ask (worker : Worker) (event : Event) : Worker :=
  { worker with saves := worker.saves ++ worker.sink.asked event }

def keep (worker : Worker) (event : Event) : Worker :=
  { worker with sink := worker.sink.save event }

def conclude (worker : Worker) (now : Moment) (alerts : List Alert) :
    Worker × Except WorkerFault (List Alert) :=
  let counted := worker.count now
  match counted.trim now with
  | .ok trimmed => (trimmed, .ok alerts)
  | .error _ => (counted, .error .rateWindow)

def evaluate (worker : Worker) (now : Moment) (event : Event) :
    Worker × Except EvaluationFault (List Alert) :=
  let evaluation :=
    worker.evaluators.process now worker.serial event (worker.rules.forEvent event)
  let worker :=
    { worker with
      evaluators := evaluation.state
      serial := worker.serial + evaluation.issued
      dispatcher := worker.dispatcher.submitAll evaluation.submissions }
  (worker, match evaluation.failure with
    | some fault => .error fault
    | none => .ok evaluation.alerts)

def process (worker : Worker) (now : Moment) (event : Event) :
    Worker × Except WorkerFault (List Alert) :=
  match worker.evaluate now event with
  | (worker, .error fault) =>
    (worker.fail, .error (.processing (.text event.deviceId) (.evaluation fault)))
  | (worker, .ok alerts) => ((worker.ask event).keep event).conclude now alerts

def handle (worker : Worker) (now : Moment) (payload : Value) :
    Worker × Except WorkerFault (List Alert) :=
  match Event.ofPayload now payload with
  | .ok event => worker.process now event
  | .error (.timestamp .tooLarge) => (worker, .error (.timestamp .tooLarge))
  | .error (.timestamp .beyondSystem) => (worker, .error (.timestamp .beyondSystem))
  | .error fault => (worker.fail, .error (.processing (payload.get "device_id") (.payload fault)))

def checkFailures (worker : Worker) (now : Moment) : Worker × Except Misuse (List Alert) :=
  match worker.evaluators.anomaly with
  | none => (worker, .ok [])
  | some detector =>
    match detector.sensorFailures now worker.serial (.ofQuantity worker.settings.sensorTimeout) with
    | .error fault => (worker, .error fault)
    | .ok alerts =>
      let submissions := alerts.map fun alert =>
        ({ alert, channels := worker.settings.failureChannels.map .text } : Submission)
      ({ worker with
          serial := worker.serial + alerts.length
          dispatcher := worker.dispatcher.submitAll submissions }, .ok alerts)

def rate (count : Nat) (seconds : Float) : Float :=
  roundTwo ((ofInt? count).getD 0 / seconds)

def successRate (processed errors : Nat) : Float :=
  if processed == 0 then 0
  else roundTwo ((ofInt? processed).getD 0 / (ofInt? (processed + errors : Nat)).getD 0 * 100)

def metrics (worker : Worker) (now : Moment) : Except MetricsFault Metrics := do
  let worker <- worker.trim now
  let uptime := match worker.startedAt with
    | some startedAt => spanSeconds (now.since startedAt)
    | none => 0
  if worker.settings.rateWindow == 0 then throw .emptyRateWindow
  .ok
    { running := worker.running
      uptimeSeconds := (truncate? uptime).getD 0
      processed := worker.processed
      errors := worker.errors
      perSecond := rate worker.recent.length (spanSeconds worker.settings.rateWindow)
      averagePerSecond := if 0 < uptime then rate worker.processed uptime else 0
      successRate := successRate worker.processed worker.errors
      pending := worker.dispatcher.pending }

def measure (worker : Worker) (now : Moment) : Worker × Except MetricsFault Metrics :=
  match worker.trim now with
  | .ok trimmed => (trimmed, worker.metrics now)
  | .error fault => (worker, .error fault)

def reset (worker : Worker) (now : Moment) : Worker :=
  { worker with processed := 0, errors := 0, recent := [], startedAt := some now }

end Worker

end SensorAlerting
