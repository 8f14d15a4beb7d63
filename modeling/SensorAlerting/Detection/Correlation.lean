import SensorAlerting.Detection.Evaluation

set_option autoImplicit false

/-!
Patterns across the sensors of one location. For each location a short buffer of recent events and
an occupancy flag are kept. Entries of twice the window's age are dropped from every buffer with
each event.
-/

namespace SensorAlerting.Detection

open SensorAlerting.Number SensorAlerting.Time

structure BufferedEvent where
  arrival : Moment
  deviceId : String
  sensorType : String
  presencePositive : Bool
  motionPositive : Bool
  anomalous : Bool
deriving DecidableEq, Repr

/-- The window and what the patterns go by. Counts and levels are kept as they were stated: they
are put to use only when a pattern gets to them. -/
structure CorrelationSettings where
  window : Int
  stationaryMinEvents : Value
  bufferSize : Value
  gasWarningLevel : Value
  gasCriticalLevel : Value
  presenceTypes : List String
  motionTypes : List String
  gasTypes : List String

namespace CorrelationSettings

def default : CorrelationSettings :=
  { window := 60 * second
    stationaryMinEvents := .int 5
    bufferSize := .int 100
    gasWarningLevel := .int 300
    gasCriticalLevel := .int 500
    presenceTypes := ["ld2410", "presence"]
    motionTypes := ["pir", "motion"]
    gasTypes := ["mq134", "gas"] }

def argumentNames : List String :=
  ["window_seconds", "stationary_min_events", "buffer_size", "gas_warning_level",
    "gas_critical_level", "presence_types", "motion_types", "gas_types"]

/-- The sensor types that a value states. Items that are no texts are no types. -/
def typesOf (stated : Option Value) (usual : List String) : Except Misuse (List String) :=
  match stated with
  | none => .ok usual
  | some stated => do
    let types <- (<- stated.asItems).mapM Value.asKey
    .ok (types.filterMap id)

def ofValue (value : Value) : Except Misuse CorrelationSettings := do
  let fields <- value.asArguments argumentNames []
  let stated := fun (name : String) (usual : Value) => (Entries.get? fields name).getD usual
  let seconds <- (stated "window_seconds" (.int 60)).asQuantity
  let window <- (spanOf second seconds).mapError .ofFault
  let presenceTypes <- typesOf (Entries.get? fields "presence_types") default.presenceTypes
  let motionTypes <- typesOf (Entries.get? fields "motion_types") default.motionTypes
  let gasTypes <- typesOf (Entries.get? fields "gas_types") default.gasTypes
  .ok
    { window
      stationaryMinEvents := stated "stationary_min_events" default.stationaryMinEvents
      bufferSize := stated "buffer_size" default.bufferSize
      gasWarningLevel := stated "gas_warning_level" default.gasWarningLevel
      gasCriticalLevel := stated "gas_critical_level" default.gasCriticalLevel
      presenceTypes
      motionTypes
      gasTypes }

end CorrelationSettings

def BufferedEvent.toValue (entry : BufferedEvent) : Value :=
  .mapping [("arrival", .text entry.arrival.isoText), ("device_id", .text entry.deviceId),
    ("sensor_type", .text entry.sensorType), ("presence_positive", .bool entry.presencePositive),
    ("motion_positive", .bool entry.motionPositive), ("anomalous", .bool entry.anomalous)]

structure CorrelationTracker where
  settings : CorrelationSettings
  buffers : Entries String (List BufferedEvent)
  occupancy : Entries String Bool

structure Match where
  correlationType : String
  severity : Severity
  description : String
  channels : List String
  value : Value
  details : Entries String Value

structure OccupancyStats where
  total : Nat
  occupied : Nat
  locations : Entries String Bool

def OccupancyStats.toValue (stats : OccupancyStats) : Value :=
  .mapping [("total_locations", Value.ofNat stats.total),
    ("occupied_count", Value.ofNat stats.occupied),
    ("vacant_count", Value.ofNat (stats.total - stats.occupied)),
    ("locations", .mapping (stats.locations.map fun entry => (entry.1, .bool entry.2)))]

namespace CorrelationTracker

def start (settings : CorrelationSettings) : CorrelationTracker :=
  { settings, buffers := [], occupancy := [] }

def isTrue : Value -> Bool
  | .bool flag => flag
  | _ => false

def reportsOne (event : Event) (name : String) : Except Fault Bool := do
  let value <- event.lookupNumber ["value"]
  return value.any (fun value => value == 1) || isTrue (event.lookup [name])

def isPresencePositive (settings : CorrelationSettings) (event : Event) : Except Fault Bool :=
  if settings.presenceTypes.contains event.sensorType then reportsOne event "presence"
  else .ok false

def isMotionPositive (settings : CorrelationSettings) (event : Event) : Except Fault Bool :=
  if settings.motionTypes.contains event.sensorType then reportsOne event "motion"
  else .ok false

def isNull : Value -> Bool
  | .null => true
  | _ => false

def marksAnomalous (alert : Alert) : Bool :=
  alert.severity == .critical || alert.category == .anomaly

def isAnomalous (event : Event) (related : List Alert) : Bool :=
  related.any marksAnomalous || !isNull (event.lookup ["anomaly_type"]) ||
    match event.lookup ["alert_level"] with
    | .text level => level == "critical"
    | _ => false

def bufferOf (tracker : CorrelationTracker) (location : String) : List BufferedEvent :=
  (Entries.get? tracker.buffers location).getD []

def isOccupied (tracker : CorrelationTracker) (location : String) : Bool :=
  (Entries.get? tracker.occupancy location).getD false

def entryOf (settings : CorrelationSettings) (now : Moment) (event : Event)
    (related : List Alert) : Except Fault BufferedEvent := do
  let presencePositive <- isPresencePositive settings event
  let motionPositive <- isMotionPositive settings event
  .ok
    { arrival := now
      deviceId := event.deviceId
      sensorType := event.sensorType
      presencePositive
      motionPositive
      anomalous := isAnomalous event related }

def openBuffer (tracker : CorrelationTracker) (location : String) : CorrelationTracker :=
  { tracker with buffers := Entries.put tracker.buffers location (tracker.bufferOf location) }

def record (tracker : CorrelationTracker) (bound : Bound) (location : String)
    (entry : BufferedEvent) : CorrelationTracker :=
  let buffer := keepNewest bound (tracker.bufferOf location ++ [entry])
  { tracker with buffers := Entries.put tracker.buffers location buffer }

def purge (tracker : CorrelationTracker) (now : Moment) (horizon : Int) : CorrelationTracker :=
  { tracker with
    buffers := (tracker.buffers.map fun entry =>
      (entry.1, entry.2.dropWhile fun entry => decide (horizon <= now.since entry.arrival))).filter
        fun entry => !entry.2.isEmpty }

def recent (tracker : CorrelationTracker) (location : String) (now : Moment) :
    List BufferedEvent :=
  (tracker.bufferOf location).filter fun entry =>
    decide (now.since entry.arrival < tracker.settings.window)

def presenceWithMotion (settings : CorrelationSettings) (event : Event)
    (recent : List BufferedEvent) : Except Misuse (Option Match) := do
  if settings.presenceTypes.contains event.sensorType ||
      settings.motionTypes.contains event.sensorType then
    let presence := recent.any BufferedEvent.presencePositive
    let motion := recent.any BufferedEvent.motionPositive
    if !presence then return none
    if motion then
      return some
        { correlationType := "confirmed_occupancy"
          severity := .info
          description := "Both presence and motion detected - confirmed occupancy"
          channels := ["webhook"]
          value := .null
          details := [("confidence", .text "high")] }
    if (<- settings.stationaryMinEvents.asQuantity).isBelow (.whole recent.length) then
      return some
        { correlationType := "stationary_presence"
          severity := .info
          description := "Presence detected without motion - person may be stationary"
          channels := ["webhook"]
          value := .null
          details := [("confidence", .text "medium"), ("event_count", .int recent.length)] }
    return none
  else return none

def gasMatch (severity : Severity) (degree : String) (channels : List String) (level : Float) :
    Match :=
  { correlationType := "gas_with_occupancy"
    severity
    description := degree ++ " gas concentration (" ++ generalText level ++
      ") detected in occupied space"
    channels
    value := .float level
    details := [("gas_level", .float level), ("occupied", .bool true)] }

def gasLevel (event : Event) : Except Fault (Option Float) := do
  match <- event.lookupNumber ["gas_concentration"] with
  | some level => return some level
  | none => event.lookupNumber ["value"]

def gasWithOccupancy (settings : CorrelationSettings) (event : Event) (occupied : Bool) :
    Except Misuse (Option Match) := do
  if settings.gasTypes.contains event.sensorType && occupied then
    match <- (gasLevel event).mapError .ofFault with
    | none => return none
    | some level =>
      if Quantity.isBelow (.real level) (<- settings.gasWarningLevel.asQuantity) then return none
      else if (<- settings.gasCriticalLevel.asQuantity).isAtMost (.real level) then
        return some (gasMatch .critical "High" ["email", "sms", "webhook"] level)
      else return some (gasMatch .warning "Elevated" ["email", "webhook"] level)
  else return none

def sortedTypes (entries : List BufferedEvent) : List String :=
  (distinct (entries.map BufferedEvent.sensorType)).mergeSort fun left right =>
    decide (left <= right)

def multiSensorAnomaly (location : String) (recent : List BufferedEvent) : Option Match :=
  let sensorTypes := sortedTypes recent
  let anomalous := recent.filter BufferedEvent.anomalous
  if sensorTypes.length < 2 || anomalous.length < 2 then none
  else some
    { correlationType := "multi_sensor_anomaly"
      severity := .critical
      description := "Multiple sensors reporting anomalies in " ++ location
      channels := ["email", "webhook"]
      value := .null
      details := [("affected_sensors", .list (sensorTypes.map .text)),
        ("event_count", .int anomalous.length)] }

/-- The occupancy after an event: presence sensors set it either way, motion only to true. -/
def occupancyAfter (settings : CorrelationSettings) (event : Event) (previous : Bool) :
    Except Fault Bool := do
  if settings.presenceTypes.contains event.sensorType then isPresencePositive settings event
  else if <- isMotionPositive settings event then return true
  else return previous

def occupancyChange (previous next : Bool) : Option Match :=
  if next == previous then none
  else some
    { correlationType := "occupancy_change"
      severity := .info
      description := if next then "Space occupied" else "Space vacated"
      channels := ["webhook"]
      value := .bool next
      details := [("occupied", .bool next), ("previous_state", .bool previous)] }

def alertOf (now : Moment) (event : Event) (found : Match) (serial : Nat) : Alert :=
  { alertId := Alert.idOf serial
    ruleId := "correlation_" ++ found.correlationType
    category := .correlation
    severity := found.severity
    deviceId := event.deviceId
    sensorType := some event.sensorType
    location := some event.location
    timestamp := now
    value := found.value
    condition := none
    message := found.description
    details := [("correlation_type", .text found.correlationType),
      ("channels", .list (found.channels.map .text))] ++ found.details
    event := some event }

def findings (settings : CorrelationSettings) (event : Event) (recent : List BufferedEvent)
    (previous : Bool) : Except Misuse (Bool × List Match) := do
  let presence <- presenceWithMotion settings event recent
  let gas <- gasWithOccupancy settings event previous
  let next <- (occupancyAfter settings event previous).mapError .ofFault
  .ok (next, [presence, gas, multiSensorAnomaly event.location recent,
    occupancyChange previous next].filterMap id)

def evaluate (tracker : CorrelationTracker) (now : Moment) (serial : Nat) (event : Event) :
    Evaluation CorrelationTracker :=
  let recent := tracker.recent event.location now
  match findings tracker.settings event recent (tracker.isOccupied event.location) with
  | .error misuse => .failed tracker (.misuse misuse)
  | .ok (next, found) =>
    let tracker :=
      { tracker with occupancy := Entries.put tracker.occupancy event.location next }
    .ofUnnumbered tracker serial <| found.map fun found serial =>
      { alert := alertOf now event found serial, channels := found.channels.map .text }

/-- Buffers an event and evaluates every pattern. The related alerts are those already raised for
the event. -/
def process (tracker : CorrelationTracker) (now : Moment) (serial : Nat) (event : Event)
    (related : List Alert) : Evaluation CorrelationTracker :=
  match tracker.settings.bufferSize.asBound with
  | .error misuse => .failed tracker (.misuse misuse)
  | .ok bound =>
    let tracker := tracker.openBuffer event.location
    match entryOf tracker.settings now event related with
    | .error fault => .failed tracker (.number fault)
    | .ok entry =>
      let tracker := tracker.record bound event.location entry
      match checkSpan (tracker.settings.window * 2) with
      | .error fault => .failed tracker (.number fault)
      | .ok horizon => (tracker.purge now horizon).evaluate now serial event

def stats (tracker : CorrelationTracker) : OccupancyStats :=
  { total := tracker.occupancy.length
    occupied := tracker.occupancy.countP fun entry => entry.2
    locations := tracker.occupancy }

def overview (tracker : CorrelationTracker) : Value :=
  .mapping [
    ("occupancy", .mapping (tracker.occupancy.map fun (name, flag) => (name, .bool flag))),
    ("buffered", .mapping (tracker.occupancy.map fun (name, _) =>
      (name, Value.ofNat (tracker.bufferOf name).length)))]

def clear (tracker : CorrelationTracker) (location : String) : CorrelationTracker :=
  { tracker with
    buffers := Entries.remove tracker.buffers location
    occupancy := Entries.remove tracker.occupancy location }

def clearAll (tracker : CorrelationTracker) : CorrelationTracker :=
  { tracker with buffers := [], occupancy := [] }

end CorrelationTracker

end SensorAlerting.Detection
