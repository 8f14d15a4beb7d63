import SensorAlerting.Delivery.Timeline
import SensorAlerting.Worker.Basic

set_option autoImplicit false

/-!
A worker over time. It consumes a queue of payloads, looks for silent sensors at intervals, and
shares the timeline with its dispatcher. A read that fails, or a payload whose failure is not
counted, makes the consumer wait before it reads on.
-/

namespace SensorAlerting

open SensorAlerting.Delivery SensorAlerting.Number SensorAlerting.Time

/-- A queue of payloads and, once it is closed, the mark of its end. The first reads may fail. -/
structure PayloadQueue where
  capacity : Int
  items : List (Option Value)
  closed : Bool
  failingReads : Nat

namespace PayloadQueue

def create (capacity : Int) (failingReads : Nat) : PayloadQueue :=
  { capacity, items := [], closed := false, failingReads }

def isFull (queue : PayloadQueue) : Bool :=
  0 < queue.capacity && queue.capacity <= (queue.items.length : Int)

def put? (queue : PayloadQueue) (item : Option Value) : Option PayloadQueue :=
  if queue.isFull then none else some { queue with items := queue.items ++ [item] }

def putAll? (queue : PayloadQueue) (payloads : Value) : Except Misuse (Option PayloadQueue) :=
  payloads.asItems.map fun items =>
    items.foldlM (fun queue payload => queue.put? (some payload)) queue

/-- Marks the end of the queue, once. The mark finds no place in a full queue. -/
def close (queue : PayloadQueue) : PayloadQueue × Bool :=
  if queue.closed then (queue, true)
  else
    let closed := { queue with closed := true }
    match closed.put? none with
    | some marked => (marked, true)
    | none => (closed, false)

end PayloadQueue

inductive Consumer where
  | absent
  | reading
  | retrying (due : Int)
deriving DecidableEq, Repr

structure Plant where
  time : Int
  worker : Worker
  queue : PayloadQueue
  attached : Bool
  consumer : Consumer
  checkDue : Option Int

inductive StopFault where
  | queueFull
  | metrics (fault : MetricsFault)
deriving DecidableEq, Repr

namespace Plant

def create (worker : Worker) (queue : PayloadQueue) : Plant :=
  { time := 0, worker, queue, attached := false, consumer := .absent, checkDue := none }

def retryPause : Int := wholeSecond

def nextCheck (worker : Worker) (time : Int) : Option Int :=
  match waitOf worker.settings.checkSeconds with
  | .ok wait => wait.map (after time)
  | .error _ => none

def check (plant : Plant) (now : Moment) : Plant :=
  if plant.checkDue.any fun due => decide (due < reach plant.time) then
    { plant with
      worker := (plant.worker.checkFailures now).1
      checkDue := nextCheck plant.worker plant.time }
  else plant

def isPassedOver : Except WorkerFault (List Alert) -> Bool
  | .ok _ => true
  | .error (.processing _ _) => true
  | .error _ => false

def readAll (now : Moment) (plant : Plant) : List (Option Value) -> Plant
  | [] => { plant with queue := { plant.queue with items := [] } }
  | none :: rest =>
    { plant with queue := { plant.queue with items := rest }, consumer := .absent }
  | some payload :: rest =>
    let (worker, outcome) := plant.worker.handle now payload
    let plant := { plant with worker }
    if isPassedOver outcome then readAll now plant rest
    else
      { plant with
        queue := { plant.queue with items := rest }
        consumer := .retrying (after plant.time retryPause) }

def read (plant : Plant) (now : Moment) : Plant :=
  match plant.queue.failingReads with
  | 0 => readAll now plant plant.queue.items
  | failing + 1 =>
    { plant with
      queue := { plant.queue with failingReads := failing }
      consumer := .retrying (after plant.time retryPause) }

def consume (plant : Plant) (now : Moment) : Plant :=
  match plant.consumer with
  | .absent => plant
  | .reading => plant.read now
  | .retrying due =>
    if due < reach plant.time then { plant with consumer := .reading }.read now else plant

def wake (now : Moment) (time : Int) (plant : Plant) : Plant :=
  let plant := ({ plant with time }.check now).consume now
  { plant with
    worker := { plant.worker with dispatcher := plant.worker.dispatcher.settle now time } }

def settle (now : Moment) (plant : Plant) : Plant := plant.wake now plant.time

def retryDue (plant : Plant) : Option Int :=
  match plant.consumer with
  | .retrying due => some due
  | _ => none

def agenda (now : Moment) : Agenda Plant :=
  { next := fun plant =>
      earliest [plant.worker.dispatcher.nextDue, plant.checkDue, plant.retryDue]
    wake := wake now }

def sleep (now : Moment) (seconds : Value) (plant : Plant) : Except Misuse Plant := do
  let seconds <- seconds.asQuantity
  match <- (waitOf seconds).mapError .ofFault with
  | some wait =>
    let target := after plant.time (max 0 wait)
    let (time, plant) := (agenda now).runThrough target plant.time plant
    .ok { plant with time }
  | none => .ok plant

/-- Starts the dispatcher, the look-out for silent sensors and, if asked to, the consumer. A
running worker is left alone. -/
def start (now : Moment) (consuming : Bool) (plant : Plant) : Plant :=
  if plant.worker.running then plant
  else
    let worker :=
      { plant.worker with
        dispatcher := plant.worker.dispatcher.start
        running := true
        startedAt := some now }
    { plant with
      worker
      attached := plant.attached || consuming
      consumer := if consuming then .reading else plant.consumer
      checkDue := if worker.evaluators.anomaly.isSome then nextCheck worker plant.time else none }

def drainSeconds : Value := .float 30

def stopDispatcher (now : Moment) (plant : Plant) : Plant :=
  let station := { Station.start plant.worker.dispatcher with time := plant.time }
  match station.stop now drainSeconds with
  | .ok station =>
    { plant with
      time := station.time
      worker := { plant.worker with dispatcher := station.dispatcher } }
  | .error _ => plant

/-- Ends consumer and look-out, closes the queue that was consumed, and lets the dispatcher deliver
what is queued. -/
def stop (now : Moment) (plant : Plant) : Plant × Option StopFault :=
  if !plant.worker.running then (plant, none)
  else
    let (queue, marked) := if plant.attached then plant.queue.close else (plant.queue, true)
    let plant :=
      { plant with
        worker := { plant.worker with running := false }
        queue
        consumer := .absent
        checkDue := none }
    if !marked then (plant, some .queueFull)
    else
      let plant := { plant with attached := false }.stopDispatcher now
      (plant, match plant.worker.metrics now with
        | .ok _ => none
        | .error fault => some (.metrics fault))

end Plant

end SensorAlerting
