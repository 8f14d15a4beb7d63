import SensorAlerting.Value.Text
import SensorAlerting.Number.Binary

set_option autoImplicit false

namespace SensorAlerting.Value

open SensorAlerting.Number

def get (value : Value) (name : String) : Value := ofOption (value.field? name)

def has (value : Value) (name : String) : Bool := (value.field? name).isSome

def items : Value -> List Value
  | .list items => items
  | _ => []

def fields : Value -> Entries String Value
  | .mapping fields => fields
  | _ => []

def texts (value : Value) : List String := value.items.map plainText

def textAt (value : Value) (name : String) : String := (value.get name).plainText

def flagAt (value : Value) (name : String) : Bool := !(value.get name).isEmpty

def quantityAt (value : Value) (name : String) (fallback : Quantity) : Quantity :=
  ((value.field? name).bind quantity?).getD fallback

def wholeOr (fallback : Int) : Value -> Int
  | .int number => number
  | .float number => (truncate? number).getD fallback
  | .bool flag => if flag then 1 else 0
  | _ => fallback

def wholeAt (value : Value) (name : String) (fallback : Int) : Int :=
  (value.get name).wholeOr fallback

def ofTexts (contents : List String) : Value := .list (contents.map .text)

def ofNat (number : Nat) : Value := .int number

def ofFloat? : Option Float -> Value
  | some number => .float number
  | none => .null

def ofFloats (numbers : List Float) : Value := .list (numbers.map .float)

def ofCounts (counts : Entries String Nat) : Value :=
  .mapping (counts.map fun entry => (entry.1, ofNat entry.2))

end SensorAlerting.Value
