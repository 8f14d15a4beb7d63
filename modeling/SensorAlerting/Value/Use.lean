import SensorAlerting.Number.Quantity
import SensorAlerting.Number.Reading
import SensorAlerting.Value.Text

set_option autoImplicit false

namespace SensorAlerting

open SensorAlerting.Number

/-- How a value is misused: it is of a kind that does not know the operation or has no such part,
it is of the right kind but impossible, there is no item at a place or under a key, or it is beyond
the range of what it is converted to. -/
inductive Misuse where
  | wrongKind
  | noSuchPart
  | impossible
  | noSuchPlace
  | noSuchKey
  | tooLarge
deriving DecidableEq, Repr

def Misuse.ofFault : Fault -> Misuse
  | .tooLarge => .tooLarge
  | .undefined => .impossible

namespace Value

/-- A value as a key among texts. Collections cannot be keys; values other than texts can, but are
never found. -/
def asKey : Value -> Except Misuse (Option String)
  | .text content => .ok (some content)
  | .list _ | .unordered _ | .mapping _ | .table _ | .cycle => .error .wrongKind
  | _ => .ok none

/-- The items that a value consists of: those of a list, the keys of a mapping, the letters of a
text, or the numbers of bytes. -/
def asItems : Value -> Except Misuse (List Value)
  | .list items => .ok items
  | .pair first second => .ok [first, second]
  | .unordered members => .ok members
  | .mapping fields => .ok (fields.map fun field => .text field.1)
  | .table entries => .ok (entries.map Prod.fst)
  | .text content => .ok (content.toList.map fun letter => .text (String.singleton letter))
  | .octets bytes => .ok (bytes.map fun byte => .int byte.toNat)
  | _ => .error .wrongKind

def asFields : Value -> Except Misuse (Entries String Value)
  | .mapping fields => .ok fields
  | _ => .error .wrongKind

/-- A whole number; a flag counts as one or nought. -/
def asWhole : Value -> Except Misuse Int
  | .int number => .ok number
  | .bool flag => .ok (if flag then 1 else 0)
  | _ => .error .wrongKind

def asQuantity : Value -> Except Misuse Quantity
  | .int number => .ok (.whole number)
  | .float number => .ok (.real number)
  | .undefined _ => .ok (.real undefinedFloat)
  | .bool flag => .ok (.whole (if flag then 1 else 0))
  | _ => .error .wrongKind

def asCount (value : Value) : Except Misuse Nat := value.asItems.map List.length

/-- The item of a list at a place that a value states; places below nought count from the end. -/
def itemAt {Item : Type} (items : List Item) (place : Value) : Except Misuse Item := do
  let place <- place.asWhole
  let index := if place < 0 then place + items.length else place
  match if index < 0 then none else items[index.toNat]? with
  | some item => .ok item
  | none => .error .noSuchPlace

def asDouble : Value -> Except Misuse Float
  | .text content =>
    match readFloat? content with
    | some number => .ok number
    | none => .error .impossible
  | value => do (<- value.asQuantity).toFloat.mapError .ofFault

def asAmountText (value : Value) : Except Misuse String := do
  if isWhole (<- value.asDouble) then
    match value with
    | .text content =>
      match readInt? content with
      | some number => .ok (intText number)
      | none => .error .impossible
    | .float number => .ok (compactText number)
    | .undefined _ => .ok (compactText undefinedFloat)
    | value => do .ok (intText (<- value.asWhole))
  else .ok value.plainText

def isShort (number : Int) : Bool := number.natAbs < Nat.pow 10 digitLimit

mutual

def isShowable : Value -> Bool
  | .int number => isShort number
  | .list items | .unordered items => areShowable items
  | .pair first second => isShowable first && isShowable second
  | .mapping fields => haveShowable fields
  | .table entries => areEntriesShowable entries
  | _ => true

def areShowable : List Value -> Bool
  | [] => true
  | item :: rest => isShowable item && areShowable rest

def haveShowable : List (String × Value) -> Bool
  | [] => true
  | (_, item) :: rest => isShowable item && haveShowable rest

def areEntriesShowable : List (Value × Value) -> Bool
  | [] => true
  | (key, item) :: rest => isShowable key && isShowable item && areEntriesShowable rest

end

def asArguments (known needed : List String) (value : Value) :
    Except Misuse (Entries String Value) :=
  match value with
  | .mapping fields =>
    if (Entries.keys fields).all known.contains && needed.all (Entries.has fields) then .ok fields
    else .error .wrongKind
  | _ => .error .wrongKind

def isContent (value : Value) (content : Option String) : Bool :=
  match value, content with
  | .text wanted, some content => wanted == content
  | _, _ => false

end Value

end SensorAlerting
