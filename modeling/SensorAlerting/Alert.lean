import SensorAlerting.Rule

set_option autoImplicit false

namespace SensorAlerting

open SensorAlerting.Number SensorAlerting.Time

inductive AlertCategory where
  | threshold
  | anomaly
  | correlation
  | sensorFailure
deriving DecidableEq, Repr

namespace AlertCategory

def name : AlertCategory -> String
  | .threshold => "threshold"
  | .anomaly => "anomaly"
  | .correlation => "correlation"
  | .sensorFailure => "sensor_failure"

def choices : List (String × AlertCategory) :=
  [.threshold, .anomaly, .correlation, .sensorFailure].map fun category => (category.name, category)

end AlertCategory

structure Alert where
  alertId : String
  ruleId : String
  category : AlertCategory
  severity : Severity
  deviceId : String
  sensorType : Option String
  location : Option String
  timestamp : Moment
  value : Value
  condition : Option String
  message : String
  details : Entries String Value
  event : Option Event

/-- What makes an alert a repeat of another. -/
structure AlertKey where
  ruleId : String
  deviceId : String
  severity : Severity
deriving DecidableEq, Repr

structure Submission where
  alert : Alert
  channels : List Value

namespace Alert

def idOf (serial : Nat) : String := "alert-" ++ intText serial

def key (alert : Alert) : AlertKey :=
  { ruleId := alert.ruleId, deviceId := alert.deviceId, severity := alert.severity }

def fieldNames : List String :=
  ["alert_id", "rule_id", "category", "severity", "device_id", "sensor_type", "location",
    "timestamp", "value", "condition", "message", "details", "event"]

def ofFields (serial : Nat) (now : Moment) (fields : Entries String Value)
    (event : Checked (Option Event)) : Checked Alert :=
  (Alert.mk <$> Check.defaulted fields "alert_id" (idOf serial) Check.text <*>
    Check.required fields "rule_id" Check.someText <*>
    Check.required fields "category" (Check.oneOf AlertCategory.choices) <*>
    Check.required fields "severity" (Check.oneOf Severity.choices) <*>
    Check.required fields "device_id" Check.text <*>
    Check.defaulted fields "sensor_type" none (Check.optional Check.text) <*>
    Check.defaulted fields "location" none (Check.optional Check.text) <*>
    Check.defaulted fields "timestamp" now Check.moment <*>
    Check.defaulted fields "value" .null Checked.good <*>
    Check.defaulted fields "condition" none (Check.optional Check.text) <*>
    Check.required fields "message" Check.text <*>
    Check.defaulted fields "details" [] Check.mapping <*>
    event.inside "event").also (Check.unknown fields fieldNames)

def toFields (alert : Alert) (time : Moment -> String) : Entries String Value :=
  [("alert_id", .text alert.alertId),
    ("rule_id", .text alert.ruleId),
    ("category", .text alert.category.name),
    ("severity", .text alert.severity.name),
    ("device_id", .text alert.deviceId),
    ("sensor_type", Value.ofText? alert.sensorType),
    ("location", Value.ofText? alert.location),
    ("timestamp", .text (time alert.timestamp)),
    ("value", alert.value),
    ("condition", Value.ofText? alert.condition),
    ("message", .text alert.message),
    ("details", .mapping alert.details)]

def toValue (alert : Alert) : Value := .mapping (alert.toFields Moment.isoText)

mutual

/-- A value without the numbers that JSON lacks: null takes their place. -/
def finiteOnly : Value -> Value
  | .float number => if isFinite number then .float number else .null
  | .undefined _ => .null
  | .list items => .list (finiteItems items)
  | .mapping fields => .mapping (finiteFields fields)
  | value => value

def finiteItems : List Value -> List Value
  | [] => []
  | item :: rest => finiteOnly item :: finiteItems rest

def finiteFields : List (String × Value) -> List (String × Value)
  | [] => []
  | (name, item) :: rest => (name, finiteOnly item) :: finiteFields rest

end

def toPayload (alert : Alert) : Value :=
  let fields := finiteFields (alert.toFields Moment.zuluText)
  .mapping <| match alert.event with
    | some event => fields ++ [("event", event.toPayload)]
    | none => fields

def webhookPayload (alert : Alert) (sentAt : String) : Value :=
  .mapping [("alert", alert.toPayload), ("timestamp", .text sentAt),
    ("event_type", .text "sensor_alert")]

def orUnknown (content fallback : String) : String := if content.isEmpty then fallback else content

def emailSubject (alert : Alert) : String :=
  "[" ++ alert.severity.capitals ++ "] Sensor Alert - " ++ orUnknown alert.deviceId "Unknown"

def emailLines (alert : Alert) : List String :=
  ["Sensor Alert Notification",
    "=========================",
    "",
    "Alert Level: " ++ alert.severity.name,
    "Alert ID: " ++ alert.alertId,
    "Rule: " ++ alert.ruleId,
    "Device ID: " ++ alert.deviceId,
    "Sensor Type: " ++ orUnknown (alert.sensorType.getD "") "n/a",
    "Location: " ++ orUnknown (alert.location.getD "") "n/a",
    "Timestamp: " ++ alert.timestamp.isoText,
    "",
    orUnknown alert.message "No description available"] ++
  (match alert.condition with
    | some condition => if condition.isEmpty then [] else ["Condition: " ++ condition]
    | none => []) ++
  (match alert.value with
    | .null => []
    | value => ["Value: " ++ value.plainText]) ++
  ["", "---", "This is an automated alert from the sensor analytics service."]

def emailBody (alert : Alert) : String := "\n".intercalate alert.emailLines

def smsLength : Nat := 160

def smsText (alert : Alert) : String :=
  let content := "[" ++ alert.severity.capitals ++ "] " ++ orUnknown alert.deviceId "Unknown" ++
    ": " ++ orUnknown alert.message "Alert triggered"
  String.ofList (content.toList.take smsLength)

end Alert

end SensorAlerting
