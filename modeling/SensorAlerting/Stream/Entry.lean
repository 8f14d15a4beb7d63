import SensorAlerting.Json.Reader
import SensorAlerting.Value.Use

set_option autoImplicit false

/-!
Entries of the event stream. An entry either wraps a payload as JSON in one field, or carries its
fields side by side. In the second case readings are read as JSON where that is possible, but the
names of device, sensor type and location stay texts.
-/

namespace SensorAlerting.Stream

/-- Why an entry is no payload: its data cannot be read or is no mapping, or the entry or its data
is not of the kind that is expected. -/
inductive EntryFault where
  | unreadable (fault : Json.ReadFault)
  | notMapping
  | misuse (misuse : Misuse)
deriving DecidableEq, Repr

def EntryFault.message : EntryFault -> String
  | .unreadable _ => "stream entry data is not JSON"
  | .notMapping => "stream entry data is not a JSON object"
  | .misuse _ => "stream entry has no fields with a text"

/-- Whether whoever reads an entry cannot just go on with the next one. -/
def EntryFault.isFatal : EntryFault -> Bool
  | .misuse _ | .unreadable .tooDeep => true
  | .unreadable _ | .notMapping => false

def textNames : List String := ["device_id", "sensor_type", "location"]

def readData : Value -> Except EntryFault (Entries String Value)
  | .text content =>
    match Json.read content with
    | .ok (.mapping fields) => .ok fields
    | .ok _ => .error .notMapping
    | .error fault => .error (.unreadable fault)
  | _ => .error (.misuse .wrongKind)

/-- What is no JSON stays as it is; too deep a nesting is a fault. -/
def readField (name : String) (value : Value) : Except EntryFault Value :=
  match value with
  | .text content =>
    if textNames.contains name then .ok value
    else match Json.read content with
    | .ok found => .ok found
    | .error .tooDeep => .error (.unreadable .tooDeep)
    | .error _ => .ok value
  | value => .ok value

def decode (fields : Entries String Value) : Except EntryFault (Entries String Value) :=
  match Entries.get? fields "data" with
  | some data => readData data
  | none => fields.mapM fun field => (readField field.1 field.2).map fun item => (field.1, item)

def mentions (word : List Char) : List Char -> Bool
  | [] => word.isEmpty
  | letter :: rest => word.isPrefixOf (letter :: rest) || mentions word rest

/-- The payload of an entry whose fields are given as data. What is no mapping has no fields: it
may only be asked whether it holds the name of the data field, and has nothing under it then. -/
def decodeValue (fields : Value) : Except EntryFault (Entries String Value) :=
  let holdsName := match fields with
    | .list items => some (items.any fun item => item.text? == some "data")
    | .text content => some (mentions "data".toList content.toList)
    | _ => none
  match fields, holdsName with
  | .mapping fields, _ => decode fields
  | _, some false => .error (.misuse .noSuchPart)
  | _, _ => .error (.misuse .wrongKind)

end SensorAlerting.Stream
