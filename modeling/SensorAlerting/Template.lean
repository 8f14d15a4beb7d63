import SensorAlerting.Value

set_option autoImplicit false

namespace SensorAlerting.Template

def body (sensorType condition severity : String) (channels : List String) (throttleMinutes : Int)
    (description : String) : Entries String Value :=
  [("sensor_type", .text sensorType),
    ("condition", .text condition),
    ("severity", .text severity),
    ("channels", .list (channels.map .text)),
    ("throttle_minutes", .int throttleMinutes),
    ("description", .text description)]

def catalog : Entries String (Entries String Value) :=
  [("gas_high_critical", body "mq134" "gas_concentration > 500" "critical"
      ["email", "webhook", "sms"] 15 "Critical gas concentration level detected"),
    ("gas_high_warning", body "mq134" "gas_concentration > 300" "warning"
      ["email", "webhook"] 30 "Elevated gas concentration level detected"),
    ("presence_detected", body "ld2410" "value == 1" "info"
      ["webhook"] 0 "Presence detected in area"),
    ("motion_detected", body "pir" "value == 1" "info"
      ["webhook"] 0 "Motion detected in area"),
    ("temperature_high", body "temperature" "temperature > 35" "warning"
      ["email", "webhook"] 20 "High temperature detected"),
    ("temperature_low", body "temperature" "temperature < 10" "warning"
      ["email", "webhook"] 20 "Low temperature detected"),
    ("humidity_high", body "humidity" "humidity > 80" "warning"
      ["email", "webhook"] 30 "High humidity detected")]

def get? (name : String) : Option (Entries String Value) := Entries.get? catalog name

def list : List Value :=
  catalog.map fun template => .mapping (("name", .text template.1) :: template.2)

end SensorAlerting.Template
