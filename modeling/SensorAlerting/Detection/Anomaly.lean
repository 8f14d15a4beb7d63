import SensorAlerting.Detection.Evaluation

set_option autoImplicit false

/-!
Statistical anomalies in the readings of single devices. A bounded history of readings is kept for
each device, and four detectors look at every new one. Devices that have fallen silent are found by
the time of their latest event.
-/

namespace SensorAlerting.Detection

open SensorAlerting.Number SensorAlerting.Time

/-- The readings that count as the value of an event, in order of preference. -/
def valueFields : List String :=
  ["value", "reading", "gas_concentration", "temperature", "humidity", "distance"]

structure ValidRange where
  low : Value
  high : Value

def rangeBetween (low high : Int) : Value := .list [.int low, .int high]

def defaultValidRanges : Entries String Value :=
  [("mq134", rangeBetween 0 1000), ("gas", rangeBetween 0 1000), ("ld2410", rangeBetween 0 1),
    ("presence", rangeBetween 0 1), ("pir", rangeBetween 0 1), ("motion", rangeBetween 0 1),
    ("temperature", rangeBetween (-40) 85), ("humidity", rangeBetween 0 100)]

def defaultAnomalyChannels : List Value := [.text "email", .text "webhook"]

def spikeWindow : Nat := 5

def spikeFactor : Float := 3

def flatlineWindow : Nat := 10

def fluctuationWindow : Nat := 10

def fluctuationRatio : Float := 0.2

/-- A number in a history. Undefined ones are told apart by what they are made of. -/
structure Reading where
  value : Float
  origin : Option Nat

/-- Equal numbers are the same, and so is one object with itself where it is undefined. -/
def Reading.isSame (reading other : Reading) : Bool :=
  reading.value == other.value ||
    (isUndefined reading.value && isUndefined other.value && reading.origin == other.origin)

def extractReading (event : Event) : Except Fault (Option Reading) := go valueFields
where
  go : List String -> Except Fault (Option Reading)
    | [] => .ok none
    | name :: rest =>
      match event.lookupNumber [name] with
      | .error fault => .error fault
      | .ok (some value) => .ok (some { value, origin := (event.lookup [name]).origin? })
      | .ok none => go rest

def extractValue (event : Event) : Except Fault (Option Float) :=
  (extractReading event).map fun reading? => reading?.map Reading.value

structure Finding where
  anomalyType : String
  severity : Severity
  description : String
  value : Float
  details : Entries String Value

def spikeOrDrop (prior : List Float) (value : Float) : Except Fault (Option Finding) := do
  if prior.length < spikeWindow then return none
  let summary <- summarize prior
  if summary.deviation <= 0 then return none
  let finding := fun anomalyType verb =>
    { anomalyType
      severity := .critical
      description := "Value " ++ verb ++ " to " ++ compactText value ++ " (avg: " ++
        fixedTwoText summary.mean ++ ", stddev: " ++ fixedTwoText summary.deviation ++ ")"
      value
      details := [("mean", .float summary.mean), ("std", .float summary.deviation),
        ("expected_range", .list [.float (summary.mean - summary.deviation),
          .float (summary.mean + summary.deviation)])] : Finding }
  if summary.mean + spikeFactor * summary.deviation < value then
    return some (finding "sudden_spike" "spiked")
  if value < summary.mean - spikeFactor * summary.deviation then
    return some (finding "sudden_drop" "dropped")
  return none

def flatline (window : Window Reading) : Option Finding :=
  if window.size < flatlineWindow then none
  else match window.last flatlineWindow with
  | [] => none
  | first :: rest =>
    if rest.all first.isSame then
      some
        { anomalyType := "flatline"
          severity := .warning
          description := "Sensor reporting constant value: " ++ compactText first.value
          value := first.value
          details := [("window", .int flatlineWindow)] }
    else none

namespace ValidRange

def ofValue (stated : Value) : Except Misuse ValidRange := do
  match <- stated.asItems with
  | [low, high] => .ok { low, high }
  | _ => .error .impossible

/-- Whether a range holds a reading. The upper bound is not looked at for one below the lower. -/
def holds (range : ValidRange) (value : Float) : Except Misuse Bool := do
  if (<- range.low.asQuantity).isAtMost (.real value) then
    do .ok (Quantity.isAtMost (.real value) (<- range.high.asQuantity))
  else .ok false

end ValidRange

/-- The value is outside the bounds of its sensor type; unknown types have none. -/
def outOfRange (ranges : Entries String Value) (sensorType : String) (value : Float) :
    Except Misuse (Option Finding) := do
  match Entries.get? ranges sensorType with
  | none | some .null => return none
  | some stated =>
    let range <- ValidRange.ofValue stated
    if <- range.holds value then return none
    let low <- range.low.asAmountText
    let high <- range.high.asAmountText
    return some
      { anomalyType := "out_of_range"
        severity := .critical
        description := "Value " ++ compactText value ++ " is outside valid range [" ++ low ++
          ", " ++ high ++ "]"
        value
        details := [("valid_range", .mapping [("min", range.low), ("max", range.high)])] }

def rapidFluctuation (window : Window Reading) : Option Finding :=
  if window.size < fluctuationWindow then none
  else
    let recent := (window.last fluctuationWindow).map Reading.value
    let average := mean recent
    if average <= 0 then none
    else
      let change := meanChange recent
      if change <= average * fluctuationRatio then none
      else some
        { anomalyType := "rapid_fluctuation"
          severity := .warning
          description :=
            "Sensor values fluctuating rapidly (avg change: " ++ fixedTwoText change ++ ")"
          value := recent.getLast?.getD 0
          details := [("avg_change", .float change), ("avg_value", .float average)] }

/-- Channels, size of the histories and ranges, the last two as they were stated: they are put to
use only with the first reading. -/
structure AnomalySettings where
  channels : List Value
  maxHistorySize : Value
  validRanges : Entries String Value

namespace AnomalySettings

def default : AnomalySettings :=
  { channels := defaultAnomalyChannels
    maxHistorySize := .int 100
    validRanges := defaultValidRanges }

def argumentNames : List String := ["channels", "max_history_size", "valid_ranges"]

/-- An entry of a mapping that is stated as a list. A key that is no text is never looked up. -/
def entryOf (stated : Value) : Except Misuse (Option (String × Value)) := do
  match <- stated.asItems with
  | [key, item] => do .ok ((<- key.asKey).map fun key => (key, item))
  | _ => .error .impossible

/-- The ranges that a value states: those of a mapping or of a list of entries; null stands for the
usual ones. -/
def rangesOf : Value -> Except Misuse (Entries String Value)
  | .null => .ok defaultValidRanges
  | .mapping ranges => .ok ranges
  | stated => do
    let entries <- (<- stated.asItems).mapM entryOf
    .ok (Entries.ofPairs (entries.filterMap id))

def ofValue (value : Value) : Except Misuse AnomalySettings := do
  let fields <- value.asArguments argumentNames []
  let channels <- match Entries.get? fields "channels" with
    | some channels => channels.asItems
    | none => .ok default.channels
  let validRanges <- rangesOf ((Entries.get? fields "valid_ranges").getD .null)
  .ok
    { channels
      maxHistorySize := (Entries.get? fields "max_history_size").getD default.maxHistorySize
      validRanges }

end AnomalySettings

structure AnomalyDetector where
  settings : AnomalySettings
  history : Entries String (Window Reading)
  lastSeen : Entries String Moment

namespace AnomalyDetector

def start (settings : AnomalySettings) : AnomalyDetector :=
  { settings, history := [], lastSeen := [] }

def alertOf (now : Moment) (event : Event) (finding : Finding) (serial : Nat) : Alert :=
  { alertId := Alert.idOf serial
    ruleId := "anomaly_" ++ finding.anomalyType
    category := .anomaly
    severity := finding.severity
    deviceId := event.deviceId
    sensorType := some event.sensorType
    location := some event.location
    timestamp := now
    value := .float finding.value
    condition := none
    message := finding.description
    details := ("anomaly_type", .text finding.anomalyType) :: finding.details
    event := some event }

def findings (settings : AnomalySettings) (prior : List Float) (window : Window Reading)
    (sensorType : String) (value : Float) : Except EvaluationFault (List Finding) := do
  let spike <- (spikeOrDrop prior value).mapError .number
  let range <- (outOfRange settings.validRanges sensorType value).mapError .misuse
  return [spike, flatline window, range, rapidFluctuation window].filterMap id

def windowOf (detector : AnomalyDetector) (deviceId : String) :
    Except EvaluationFault (Window Reading) :=
  match Entries.get? detector.history deviceId with
  | some window => .ok window
  | none => (Window.create detector.settings.maxHistorySize).mapError .window

def process (detector : AnomalyDetector) (now : Moment) (serial : Nat) (event : Event) :
    Evaluation AnomalyDetector :=
  let seen := { detector with lastSeen := Entries.put detector.lastSeen event.deviceId now }
  match extractReading event with
  | .error fault => .failed seen (.number fault)
  | .ok none => .nothing seen
  | .ok (some reading) =>
    match seen.windowOf event.deviceId with
    | .error fault => .failed seen fault
    | .ok window =>
      let prior := (window.last spikeWindow).map Reading.value
      let window := window.append now reading
      let recorded := { seen with history := Entries.put seen.history event.deviceId window }
      match findings seen.settings prior window event.sensorType reading.value with
      | .error fault => .failed recorded fault
      | .ok found =>
        .ofUnnumbered recorded serial <| found.map fun finding serial =>
          { alert := alertOf now event finding serial, channels := seen.settings.channels }

def failureAlert (now : Moment) (deviceId : String) (lastSeen : Moment) (timeout : Value)
    (timeoutText : String) (serial : Nat) : Alert :=
  { alertId := Alert.idOf serial
    ruleId := "anomaly_sensor_failure"
    category := .sensorFailure
    severity := .critical
    deviceId
    sensorType := none
    location := none
    timestamp := now
    value := .null
    condition := none
    message := "Sensor " ++ deviceId ++ " has not reported data for " ++ timeoutText ++ " minutes"
    details := [("last_seen", .text lastSeen.isoText),
      ("timeout_minutes", timeout)]
    event := none }

def silentDevices (detector : AnomalyDetector) (now : Moment) (span : Int) :
    List (String × Moment) :=
  detector.lastSeen.filter fun entry => decide (span < now.since entry.2)

def sensorFailures (detector : AnomalyDetector) (now : Moment) (serial : Nat)
    (timeout : Value) : Except Misuse (List Alert) := do
  let span <- (spanOf minute (<- timeout.asQuantity)).mapError .ofFault
  match detector.silentDevices now span with
  | [] => return []
  | silent =>
    let timeoutText <- timeout.asAmountText
    return (silent.zipIdx serial).map fun ((deviceId, lastSeen), serial) =>
      failureAlert now deviceId lastSeen timeout timeoutText serial

def readings (detector : AnomalyDetector) (deviceId : String) : List Float :=
  match Entries.get? detector.history deviceId with
  | some window => (window.last window.capacity).map Reading.value
  | none => []

def clear (detector : AnomalyDetector) (deviceId : String) : AnomalyDetector :=
  { detector with
    history := Entries.remove detector.history deviceId
    lastSeen := Entries.remove detector.lastSeen deviceId }

def clearAll (detector : AnomalyDetector) : AnomalyDetector :=
  { detector with history := [], lastSeen := [] }

end AnomalyDetector

end SensorAlerting.Detection
