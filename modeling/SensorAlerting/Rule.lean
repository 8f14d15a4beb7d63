import SensorAlerting.Condition

set_option autoImplicit false

/-!
Threshold rules. A rule names a condition, the severity of the alerts it raises, the channels they
go to, and how long it stays silent after it has fired. A rule without a sensor type or a device
applies to every one.
-/

namespace SensorAlerting

open SensorAlerting.Number SensorAlerting.Time

inductive Severity where
  | critical
  | warning
  | info
deriving DecidableEq, Repr

namespace Severity

def name : Severity -> String
  | .critical => "critical"
  | .warning => "warning"
  | .info => "info"

def capitals : Severity -> String
  | .critical => "CRITICAL"
  | .warning => "WARNING"
  | .info => "INFO"

def all : List Severity := [.critical, .warning, .info]

def names : List String := all.map name

def ofName? (content : String) : Option Severity := all.find? fun level => level.name == content

def choices : List (String × Severity) := all.map fun level => (level.name, level)

end Severity

structure Rule where
  ruleId : String
  sensorType : Option String
  deviceId : Option String
  condition : String
  severity : Severity
  channels : List String
  throttleGiven : Option Float
  enabled : Bool
  description : Option String
  createdAt : Moment
  updatedAt : Moment
  compiled : Option Condition

namespace Rule

def fieldNames : List String :=
  ["rule_id", "sensor_type", "device_id", "condition", "severity", "channels", "throttle_minutes",
    "enabled", "description", "created_at", "updated_at"]

/-- A rule from its fields. The condition is compiled once, here; a malformed one leaves the rule
without a compiled condition. -/
def build (ruleId : String) (sensorType deviceId : Option String) (condition : String)
    (severity : Severity) (channels : List String) (throttleGiven : Option Float) (enabled : Bool)
    (description : Option String) (createdAt updatedAt : Moment) : Rule :=
  { ruleId, sensorType, deviceId, condition, severity, channels, throttleGiven, enabled
    description, createdAt, updatedAt, compiled := Condition.compile? condition }

def ofFields (now : Moment) (fields : Entries String Value) : Checked Rule :=
  (Rule.build <$> Check.required fields "rule_id" Check.someText <*>
    Check.defaulted fields "sensor_type" none (Check.optional Check.text) <*>
    Check.defaulted fields "device_id" none (Check.optional Check.text) <*>
    Check.required fields "condition" Check.someText <*>
    Check.required fields "severity" (Check.oneOf Severity.choices) <*>
    Check.defaulted fields "channels" [] (Check.sequenceOf Check.text) <*>
    Check.defaulted fields "throttle_minutes" none (fun value =>
      some <$> Check.numberFrom 0 value) <*>
    Check.defaulted fields "enabled" true Check.flag <*>
    Check.defaulted fields "description" none (Check.optional Check.text) <*>
    Check.defaulted fields "created_at" now Check.moment <*>
    Check.defaulted fields "updated_at" now Check.moment).also
      (Check.unknown fields fieldNames)

def throttleMinutes (rule : Rule) : Float := rule.throttleGiven.getD 0

def throttle (rule : Rule) : Except Fault Int := spanOf minute (.real rule.throttleMinutes)

def isGlobal (rule : Rule) : Bool := rule.sensorType.isNone

/-- Whether a filter lets a name through; no filter lets all through. -/
def admits (filter : Option String) (name : String) : Bool :=
  match filter with
  | some wanted => wanted == name
  | none => true

def appliesTo (rule : Rule) (event : Event) : Bool :=
  admits rule.sensorType event.sensorType && admits rule.deviceId event.deviceId

def toFields (rule : Rule) : Entries String Value :=
  [("rule_id", .text rule.ruleId),
    ("sensor_type", Value.ofText? rule.sensorType),
    ("device_id", Value.ofText? rule.deviceId),
    ("condition", .text rule.condition),
    ("severity", .text rule.severity.name),
    ("channels", .list (rule.channels.map .text)),
    ("throttle_minutes", .float rule.throttleMinutes),
    ("enabled", .bool rule.enabled),
    ("description", Value.ofText? rule.description),
    ("created_at", .text rule.createdAt.zuluText),
    ("updated_at", .text rule.updatedAt.zuluText)]

def toValue (rule : Rule) : Value := .mapping rule.toFields

end Rule

end SensorAlerting
