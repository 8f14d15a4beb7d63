import SensorAlerting.Check.Fields
import SensorAlerting.Text.Split
import SensorAlerting.Value.Access

set_option autoImplicit false

/-!
Sensor events. A payload is a flat mapping: four envelope fields say which device reported what,
where and when, and all other fields are readings, which may be nested.
-/

namespace SensorAlerting

open SensorAlerting.Number SensorAlerting.Time

structure Event where
  deviceId : String
  sensorType : String
  location : String
  timestamp : Moment
  readings : Entries String Value

inductive TimestampFault where
  | unsupported (shown : String)
  | unreadable
  | undefined
  | tooLarge
  | beyondSystem
  | outsideCalendar
deriving DecidableEq, Repr

inductive PayloadFault where
  | notMapping
  | timestamp (fault : TimestampFault)
  | fields (faults : List Check.Fault)
deriving DecidableEq, Repr

namespace Event

def envelopeNames : List String := ["device_id", "sensor_type", "location", "timestamp"]

def isEnvelope (name : String) : Bool := envelopeNames.contains name

def millisecondCutoff : Int := 100000000000

def ofEpochFault : EpochFault -> TimestampFault
  | .tooLarge => .tooLarge
  | .beyondSystem => .beyondSystem
  | .outsideCalendar => .outsideCalendar
  | .undefined => .undefined

def inSeconds (amount : Quantity) : Except TimestampFault Quantity :=
  if Quantity.isBelow (.whole millisecondCutoff) amount then
    match amount with
    | .whole value =>
      match ofIntOver? value 1000 with
      | some seconds => .ok (.real seconds)
      | none => .error .tooLarge
    | .real value => .ok (.real (value / 1000))
  else .ok amount

def ofEpochAmount (amount : Quantity) : Except TimestampFault Moment := do
  match ofEpoch (<- inSeconds amount) with
  | .ok moment => .ok moment
  | .error fault => .error (ofEpochFault fault)

def expandZulu (letters : List Char) : List Char :=
  letters.flatMap fun letter => if letter == 'Z' then "+00:00".toList else [letter]

/-- The time stamp of a payload: now if there is none, a number of seconds or milliseconds, or ISO
text. Where no offset is given it is universal time. -/
def readTimestamp (now : Moment) : Value -> Except TimestampFault Moment
  | .null => .ok now
  | .moment moment => .ok moment.withOffset
  | .int number => ofEpochAmount (.whole number)
  | .float number => ofEpochAmount (.real number)
  | .undefined _ => ofEpochAmount (.real undefinedFloat)
  | .text content =>
    match readIso? (expandZulu content.toList) with
    | some moment => .ok moment.withOffset
    | none => .error .unreadable
  | value => .error (.unsupported value.literalText)

def locationValue (location device : Value) : Value :=
  if location.isEmpty then device else location

/-- The event of a payload. Its readings are taken over whole: that copying them runs out of stack
some five hundred levels down, and ends the call like a depth that cannot be read, is left out. -/
def ofPayload (now : Moment) (payload : Value) : Except PayloadFault Event := do
  match payload with
  | .mapping fields =>
    let get := fun name => Value.ofOption (Entries.get? fields name)
    match readTimestamp now (get "timestamp") with
    | .error fault => .error (.timestamp fault)
    | .ok timestamp =>
      let readings := fields.filter fun field => !isEnvelope field.1
      let checked := (fun deviceId sensorType location =>
          ({ deviceId, sensorType, location, timestamp, readings } : Event)) <$>
        (Check.someText (get "device_id")).inside "device_id" <*>
        (Check.someText (get "sensor_type")).inside "sensor_type" <*>
        (Check.someText (locationValue (get "location") (get "device_id"))).inside "location"
      match checked with
      | .good event => .ok event
      | .bad faults => .error (.fields faults)
  | _ => .error .notMapping

def ofFields (now : Moment) : Value -> Checked Event
  | .mapping fields =>
    let get := fun name => Value.ofOption (Entries.get? fields name)
    let fields :=
      if (get "location").isEmpty then Entries.put fields "location" (get "device_id") else fields
    Check.sectionOf "SensorEvent" ("readings" :: envelopeNames) (fun fields =>
      Event.mk <$> Check.required fields "device_id" Check.someText <*>
        Check.required fields "sensor_type" Check.someText <*>
        Check.required fields "location" Check.someText <*>
        Check.defaulted fields "timestamp" now Check.moment <*>
        Check.defaulted fields "readings" [] Check.mapping) (.mapping fields)
  | _ => Checked.fail (.notSection "SensorEvent")

def splitPath (path : String) : List String :=
  (Text.splitRuns '.' path.toList).filterMap fun letters =>
    if letters.isEmpty then none else some (String.ofList letters)

def envelopeValue (event : Event) (name : String) : Value :=
  if name == "device_id" then .text event.deviceId
  else if name == "sensor_type" then .text event.sensorType
  else if name == "location" then .text event.location
  else .moment event.timestamp

def follow? : List String -> Value -> Option Value
  | [], value => some value
  | name :: rest, value => (value.field? name).bind (follow? rest)

/-- What a path leads to, null where a segment is missing. The name of an envelope field stands for
that field unless a reading has the same name. -/
def lookup (event : Event) (path : List String) : Value :=
  match path with
  | [] => .null
  | [name] =>
    if isEnvelope name && !Entries.has event.readings name then event.envelopeValue name
    else Value.ofOption (Entries.get? event.readings name)
  | path => Value.ofOption (follow? path (.mapping event.readings))

/-- The number at a path, if there is one; a whole number must be in the range of doubles. -/
def lookupNumber (event : Event) (path : List String) : Except Fault (Option Float) :=
  match (event.lookup path).quantity? with
  | some amount => amount.toFloat.map some
  | none => .ok none

def payloadFields (event : Event) : Entries String Value :=
  let fields := Entries.put event.readings "device_id" (.text event.deviceId)
  let fields := Entries.put fields "sensor_type" (.text event.sensorType)
  let fields := Entries.put fields "location" (.text event.location)
  Entries.put fields "timestamp" (.text event.timestamp.isoText)

def toPayload (event : Event) : Value := .mapping event.payloadFields

def toValue (event : Event) : Value :=
  .mapping [("device_id", .text event.deviceId), ("sensor_type", .text event.sensorType),
    ("location", .text event.location), ("timestamp", .text event.timestamp.isoText),
    ("readings", .mapping event.readings)]

end Event

end SensorAlerting
