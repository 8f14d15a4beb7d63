set_option autoImplicit false

/-!
Keyed entries in the order in which their keys were first put. Putting a key again keeps its
place.
-/

namespace SensorAlerting

abbrev Entries (Key Item : Type) := List (Key × Item)

namespace Entries

variable {Key Item : Type} [BEq Key]

def get? (entries : Entries Key Item) (key : Key) : Option Item :=
  (entries.find? fun entry => entry.1 == key).map Prod.snd

def has (entries : Entries Key Item) (key : Key) : Bool := (get? entries key).isSome

def put : Entries Key Item -> Key -> Item -> Entries Key Item
  | [], key, item => [(key, item)]
  | entry :: rest, key, item =>
    if entry.1 == key then (entry.1, item) :: rest else entry :: put rest key item

def remove (entries : Entries Key Item) (key : Key) : Entries Key Item :=
  entries.filter fun entry => !(entry.1 == key)

def keys (entries : Entries Key Item) : List Key := entries.map Prod.fst

def items (entries : Entries Key Item) : List Item := entries.map Prod.snd

/-- Entries put one after another; of equal keys the last item stays. -/
def ofPairs (pairs : List (Key × Item)) : Entries Key Item :=
  pairs.foldl (fun entries pair => put entries pair.1 pair.2) []

def tally (keys : List Key) : Entries Key Nat :=
  keys.foldl (fun counts key => put counts key ((get? counts key).getD 0 + 1)) []

end Entries

def lastItems {Item : Type} (count : Nat) (items : List Item) : List Item :=
  items.drop (items.length - count)

/-- The end of a list that a limit asks for: the last items, all of them for nought, and all but
the first few for a limit below it. -/
def newest {Item : Type} (limit : Int) (items : List Item) : List Item :=
  if 0 < limit then lastItems limit.toNat items else items.drop limit.natAbs

def distinct {Item : Type} [BEq Item] (items : List Item) : List Item :=
  items.foldl (fun seen item => if seen.contains item then seen else seen ++ [item]) []

end SensorAlerting
