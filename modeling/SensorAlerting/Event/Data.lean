import SensorAlerting.Event
import SensorAlerting.Value.Use

set_option autoImplicit false

/-!
Paths stated in data: a dotted text, or a list of segments. A segment that cannot be a key is a
misuse once the path gets to it.
-/

namespace SensorAlerting.Event

open SensorAlerting.Number

def segmentsOf : Value -> Except Misuse (List Value)
  | .text content => .ok ((splitPath content).map .text)
  | stated => stated.asItems

def followBy : List Value -> Value -> Except Misuse Value
  | [], value => .ok value
  | segment :: rest, value =>
    if value.isMapping then do
      match (<- segment.asKey).bind value.field? with
      | some item => followBy rest item
      | none => .ok .null
    else .ok .null

def lookupBy (event : Event) : List Value -> Except Misuse Value
  | [] => .ok .null
  | [.text name] => .ok (event.lookup [name])
  | segments => followBy segments (.mapping event.readings)

def pathAnswer (event : Event) (stated : Value) : Except Misuse Value := do
  let segments <- segmentsOf stated
  let value <- event.lookupBy segments
  let number <- match value.quantity? with
    | some amount => do .ok (.float (<- amount.toFloat.mapError .ofFault))
    | none => .ok .null
  .ok (.mapping [("parts", .list segments), ("value", value), ("number", number)])

end SensorAlerting.Event
