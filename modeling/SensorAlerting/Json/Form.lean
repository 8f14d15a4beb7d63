import SensorAlerting.Json.Reader
import SensorAlerting.Json.Writer
import SensorAlerting.Value.Use

set_option autoImplicit false

/-!
Values in the kinds that JSON has. A pair counts as a list, keys other than texts are written as
texts, and a value of a kind that the format does not know stands as its text. Not every value can
be written: it must not be nested more deeply than what can be read, and not be inside itself.
-/

namespace SensorAlerting.Json

open SensorAlerting.Number

inductive WriteFault where
  | tooManyDigits
  | tooDeep
  | cyclic
  | unusableKey
deriving DecidableEq, Repr

def keyText : Value -> Except WriteFault String
  | .text content => .ok content
  | .null => .ok "null"
  | .bool flag => .ok (if flag then "true" else "false")
  | .int number => if Value.isShort number then .ok (intText number) else .error .tooManyDigits
  | .float number => .ok (String.ofList (numberChars number))
  | .undefined _ => .ok (String.ofList (numberChars undefinedFloat))
  | _ => .error .unusableKey

mutual

def form : Nat -> Value -> Except WriteFault Value
  | _, .null => .ok .null
  | _, .bool flag => .ok (.bool flag)
  | _, .int number => if Value.isShort number then .ok (.int number) else .error .tooManyDigits
  | _, .float number => .ok (.float number)
  | _, .undefined _ => .ok (.float undefinedFloat)
  | _, .text content => .ok (.text content)
  | levels, .list items =>
    match levels with
    | 0 => .error .tooDeep
    | levels + 1 => (forms levels items).map .list
  | levels, .pair first second =>
    match levels with
    | 0 => .error .tooDeep
    | levels + 1 => do .ok (.list [<- form levels first, <- form levels second])
  | levels, .mapping fields =>
    match levels with
    | 0 => .error .tooDeep
    | levels + 1 => (fieldForms levels fields).map .mapping
  | levels, .table entries =>
    match levels with
    | 0 => .error .tooDeep
    | levels + 1 => (entryForms levels entries).map .mapping
  | _, .cycle => .error .cyclic
  | _, value => if value.isShowable then .ok (.text value.plainText) else .error .tooManyDigits

def forms : Nat -> List Value -> Except WriteFault (List Value)
  | _, [] => .ok []
  | levels, item :: rest => do .ok ((<- form levels item) :: (<- forms levels rest))

def fieldForms : Nat -> List (String × Value) -> Except WriteFault (List (String × Value))
  | _, [] => .ok []
  | levels, (name, item) :: rest => do
    let item <- form levels item
    .ok ((name, item) :: (<- fieldForms levels rest))

def entryForms : Nat -> List (Value × Value) -> Except WriteFault (List (String × Value))
  | _, [] => .ok []
  | levels, (key, item) :: rest => do
    let name <- keyText key
    let item <- form levels item
    .ok ((name, item) :: (<- entryForms levels rest))

end

def writeForm (value : Value) : Except WriteFault String := (form deepest value).map write

end SensorAlerting.Json
