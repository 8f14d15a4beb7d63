import SensorAlerting.Entries
import SensorAlerting.Number.Quantity
import SensorAlerting.Text.Quoted
import SensorAlerting.Time.Moment

set_option autoImplicit false

/-!
The values that payloads, rule definitions and configuration data are made of. Whole numbers and
doubles are kept apart, and mappings keep the order of their keys. Documents may also hold bytes,
pairs, collections without an order, mappings with keys other than texts, and collections inside
themselves.
-/

namespace SensorAlerting

open SensorAlerting.Number

inductive Value where
  | null
  | bool (flag : Bool)
  | int (number : Int)
  | float (number : Float)
  /-- An undefined double made apart from the one that texts state. Those of one origin are one
  object, which is the same as itself although it does not equal itself. -/
  | undefined (origin : Nat)
  | text (content : String)
  | octets (bytes : List UInt8)
  | date (date : Time.Date)
  | moment (moment : Time.Moment)
  | list (items : List Value)
  | pair (first second : Value)
  | unordered (members : List Value)
  | mapping (fields : List (String × Value))
  /-- A mapping of which some key is no text. -/
  | table (entries : List (Value × Value))
  /-- A collection in a place inside itself. -/
  | cycle

instance : Inhabited Value := ⟨.null⟩

namespace Value

def isEmpty : Value -> Bool
  | .null => true
  | .bool flag => !flag
  | .int number => number == 0
  | .float number => number == 0
  | .text content => content == ""
  | .octets bytes => bytes.isEmpty
  | .list items => items.isEmpty
  | .unordered members => members.isEmpty
  | .mapping fields => fields.isEmpty
  | .table entries => entries.isEmpty
  | .undefined _ | .date _ | .moment _ | .pair _ _ | .cycle => false

/-- Whether a value is a flag, or the number one or nought in its place. -/
def standsFor (value : Value) (flag : Bool) : Bool :=
  match value with
  | .bool given => given == flag
  | .int number => number == if flag then 1 else 0
  | .float number => number == if flag then 1 else 0
  | _ => false

def double? : Value -> Option Float
  | .float number => some number
  | .undefined _ => some undefinedFloat
  | _ => none

def origin? : Value -> Option Nat
  | .undefined origin => some origin
  | _ => none

def quantity? : Value -> Option Quantity
  | .int number => some (.whole number)
  | .float number => some (.real number)
  | .undefined _ => some (.real undefinedFloat)
  | _ => none

def ofQuantity : Quantity -> Value
  | .whole number => .int number
  | .real number => .float number

def text? : Value -> Option String
  | .text content => some content
  | _ => none

def fields? : Value -> Option (Entries String Value)
  | .mapping fields => some fields
  | _ => none

def entries? : Value -> Option (List (Value × Value))
  | .mapping fields => some (fields.map fun field => (.text field.1, field.2))
  | .table entries => some entries
  | _ => none

def isMapping (value : Value) : Bool := value.entries?.isSome

def named (entries : List (Value × Value)) : Entries String Value :=
  entries.filterMap fun entry => entry.1.text?.map fun name => (name, entry.2)

def field? (value : Value) (name : String) : Option Value :=
  match value with
  | .mapping fields => Entries.get? fields name
  | .table entries => Entries.get? (named entries) name
  | _ => none

def putField (value : Value) (name : String) (item : Value) : Value :=
  match value with
  | .mapping fields => .mapping (Entries.put fields name item)
  | .table entries =>
    if (value.field? name).isSome then
      .table (entries.map fun entry =>
        if entry.1.text? == some name then (entry.1, item) else entry)
    else .table (entries ++ [(.text name, item)])
  | other => other

def ofOption : Option Value -> Value
  | some value => value
  | none => .null

def ofText? : Option String -> Value
  | some content => .text content
  | none => .null

end Value

end SensorAlerting
