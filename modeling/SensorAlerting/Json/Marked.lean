import SensorAlerting.Number.Binary
import SensorAlerting.Value.Text

set_option autoImplicit false

/-!
Values in a form that JSON can hold: a double that it cannot write is a mapping with a mark and the
name of the double, times are texts, and keys of mappings are texts.
-/

namespace SensorAlerting.Json

open SensorAlerting.Number

def doubleMark : String := "$float"

def doubleName? (x : Float) : Option String :=
  match parts x with
  | .undefined => some "nan"
  | .infinite negative => some (if negative then "-inf" else "inf")
  | .finite true 0 _ => some "-0.0"
  | _ => none

def doubleOfName? (origin : Nat) (name : String) : Option Value :=
  if name == "nan" then some (.undefined origin)
  else if name == "inf" then some (.float positiveInfinity)
  else if name == "-inf" then some (.float (-positiveInfinity))
  else if name == "-0.0" then some (.float (ofQuotient true 0 1))
  else none

def markedDouble? (origin : Nat) : List (String × Value) -> Option Value
  | [(mark, .text name)] => if mark == doubleMark then doubleOfName? origin name else none
  | _ => none

mutual

-- The number counts the marks met so far, so that no two of them stand for one undefined double.
def unmarkFrom (count : Nat) : Value -> Value × Nat
  | .list items =>
    let (items, count) := unmarkItems count items
    (.list items, count)
  | .mapping fields =>
    match markedDouble? count fields with
    | some double => (double, count + 1)
    | none =>
      let (fields, count) := unmarkFields count fields
      (.mapping fields, count)
  | value => (value, count)

def unmarkItems (count : Nat) : List Value -> List Value × Nat
  | [] => ([], count)
  | item :: rest =>
    let (item, count) := unmarkFrom count item
    let (rest, count) := unmarkItems count rest
    (item :: rest, count)

def unmarkFields (count : Nat) : List (String × Value) -> List (String × Value) × Nat
  | [] => ([], count)
  | (name, item) :: rest =>
    let (item, count) := unmarkFrom count item
    let (rest, count) := unmarkFields count rest
    ((name, item) :: rest, count)

end

def unmark (value : Value) : Value := (unmarkFrom 0 value).1

mutual

def mark : Value -> Value
  | .float x =>
    match doubleName? x with
    | some name => .mapping [(doubleMark, .text name)]
    | none => .float x
  | .undefined _ => .mapping [(doubleMark, .text "nan")]
  | .octets bytes => .text (Value.octets bytes).plainText
  | .date date => .text (Value.dateText date)
  | .moment moment => .text moment.isoText
  | .list items => .list (markItems items)
  | .unordered members => .list (markItems members)
  | .pair first second => .list [mark first, mark second]
  | .mapping fields => .mapping (markFields fields)
  | .table entries => .mapping (Entries.ofPairs (markEntries entries))
  | .cycle => .null
  | value => value

def markItems : List Value -> List Value
  | [] => []
  | item :: rest => mark item :: markItems rest

def markFields : List (String × Value) -> List (String × Value)
  | [] => []
  | (name, item) :: rest => (name, mark item) :: markFields rest

def markEntries : List (Value × Value) -> List (String × Value)
  | [] => []
  | (key, item) :: rest => (key.plainText, mark item) :: markEntries rest

end

end SensorAlerting.Json
