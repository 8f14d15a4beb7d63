import SensorAlerting.Entries
import SensorAlerting.Value.Use

set_option autoImplicit false

/-!
Bounds on the length of a list. A stated bound is a machine word that is not below nought, or null,
which is no bound. A list within its bound keeps its newest items.
-/

namespace SensorAlerting

/-- How many items a list may hold; none is no bound. -/
abbrev Bound := Option Nat

def smallestWord : Int := -9223372036854775808

def largestWord : Int := 9223372036854775807

def capacityFrom (size : Int) : Except Misuse Nat :=
  if size < smallestWord || largestWord < size then .error .tooLarge
  else if size < 0 then .error .impossible
  else .ok size.toNat

def Value.asBound : Value -> Except Misuse Bound
  | .null => .ok none
  | value => do
    let size <- value.asWhole
    let capacity <- capacityFrom size
    .ok (some capacity)

def keepNewest {Item : Type} (bound : Bound) (items : List Item) : List Item :=
  match bound with
  | some capacity => lastItems capacity items
  | none => items

def newestBy {Item : Type} (stated : Value) (items : List Item) : Except Misuse (List Item) :=
  stated.asWhole.map fun limit => newest limit items

end SensorAlerting
