import SensorAlerting.Yaml.Node
import SensorAlerting.Yaml.Tagged

set_option autoImplicit false

/-!
Values of YAML documents. Tags other than those of plain data are refused. Of equal keys the last
value counts, and entries that are merged in from other mappings come before a mapping's own.

A document is valued level by level from the outside in, so of several flaws the one at the least
depth counts, and of flaws at one depth the first.
-/

namespace SensorAlerting.Yaml

open SensorAlerting.Number

structure Flaw where
  depth : Nat
  fault : YamlFault
deriving DecidableEq, Repr

abbrev Valued := Except Flaw Value

namespace Valued

def flawed (fault : YamlFault) : Valued := .error { depth := 0, fault }

def ofScalar (outcome : Except YamlFault Value) : Valued :=
  outcome.mapError fun fault => { depth := 0, fault }

def deeper {Item : Type} (outcome : Except Flaw Item) : Except Flaw Item :=
  outcome.mapError fun flaw => { flaw with depth := flaw.depth + 1 }

def all : List Valued -> Except Flaw (List Value)
  | [] => .ok []
  | first :: rest =>
    match first, all rest with
    | .ok value, .ok values => .ok (value :: values)
    | .ok _, .error flaw => .error flaw
    | .error flaw, .ok _ => .error flaw
    | .error flaw, .error later => .error (if later.depth < flaw.depth then later else flaw)

end Valued

def dataTag (name : String) : String := "tag:yaml.org,2002:" ++ name

def isOpenTag (tag : Option String) : Bool := tag.all fun tag => tag == "!"

def taggedReader? (tag : String) : Option (String -> Except YamlFault Value) :=
  if tag == dataTag "str" then some fun content => .ok (.text content)
  else if tag == dataTag "null" then some fun _ => .ok .null
  else if tag == dataTag "int" then some taggedWhole
  else if tag == dataTag "float" then some taggedDouble
  else if tag == dataTag "bool" then some taggedFlag
  else if tag == dataTag "timestamp" then some taggedMoment
  else if tag == dataTag "binary" then some taggedOctets
  else none

def collectionTags : List String := ["seq", "map", "set", "omap", "pairs"].map dataTag

def scalarValue (tag : Option String) (plain : Bool) (content : String) : Valued :=
  match tag with
  | none => Valued.ofScalar (if plain then plainValue content else .ok (.text content))
  | some tag =>
    if tag == "!" then Valued.ofScalar (suggestedValue content)
    else match taggedReader? tag with
    | some read => Valued.ofScalar (read content)
    | none =>
      let flaw := Valued.flawed .malformed
      if collectionTags.contains tag then Valued.deeper flaw else flaw

def keyNumber? : Value -> Option Quantity
  | .bool flag => some (.whole (if flag then 1 else 0))
  | value => value.quantity?

def isUndefinedKey : Value -> Bool
  | .float number => isUndefined number
  | _ => false

/-- Whether two keys are the same. Numbers are compared as such, and moments with an offset as
points in time. -/
def sameKey (left right : Value) : Bool :=
  match keyNumber? left, keyNumber? right with
  | some a, some b =>
    (a.isAtMost b && b.isAtMost a) || (isUndefinedKey left && isUndefinedKey right)
  | none, none =>
    match left, right with
    | .null, .null => true
    | .text a, .text b => a == b
    | .octets a, .octets b => a == b
    | .date a, .date b => a == b
    | .moment a, .moment b => a.offset.isSome == b.offset.isSome && a.instant == b.instant
    | _, _ => false
  | _, _ => false

def canBeKey : Value -> Bool
  | .list _ | .unordered _ | .mapping _ | .table _ | .cycle => false
  | _ => true

def putKey : List (Value × Value) -> Value -> Value -> List (Value × Value)
  | [], key, item => [(key, item)]
  | entry :: rest, key, item =>
    if sameKey entry.1 key then (entry.1, item) :: rest else entry :: putKey rest key item

def mappingOf (entries : List (Value × Value)) : Value :=
  let distinct := entries.foldl (fun done entry => putKey done entry.1 entry.2) []
  if distinct.all fun entry => entry.1.text?.isSome then .mapping (Value.named distinct)
  else .table distinct

def Node.isSign (name sign : String) : Node -> Bool
  | .scalar none plain content => plain && content == sign
  | .scalar (some tag) _ content =>
    tag == dataTag name || (tag == "!" && dropLastBreak content.toList == sign.toList)
  | .sequence tag _ | .mapping tag _ => tag == some (dataTag name)
  | .again => false

def Node.isMerge (key : Node) : Bool := key.isSign "merge" "<<"

def Node.isEquality (key : Node) : Bool := key.isSign "value" "="

/-- The text that the sign of equality as a key leads to, for a mapping in a scalar's place. -/
def equalityText? : List (Node × Node) -> Option String
  | [] => none
  | (key, item) :: rest =>
    if key.isEquality then
      match item with
      | .scalar _ _ content => some content
      | .mapping _ entries => equalityText? entries
      | _ => none
    else equalityText? rest

def scalarInMapping (tag : String) (read : String -> Except YamlFault Value)
    (entries : List (Node × Node)) : Valued :=
  match equalityText? entries with
  | none => Valued.flawed .malformed
  | some content =>
    if tag == dataTag "timestamp" then Valued.flawed .momentOfMapping
    else Valued.ofScalar (read content)

def equalityKey : Node -> Valued
  | .scalar _ _ content => .ok (.text content)
  | .mapping _ entries =>
    scalarInMapping (dataTag "str") (fun content => .ok (.text content)) entries
  | _ => Valued.flawed .malformed

/-- A key, unless it is a collection. What is flawed inside of it shows that it is one. -/
def keyValue (key : Valued) : Valued :=
  match key with
  | .ok value => if canBeKey value then .ok value else Valued.flawed .malformed
  | .error flaw => if flaw.depth == 0 then .error flaw else Valued.flawed .malformed

def inTurn : List (Valued × Valued) -> List Valued
  | [] => []
  | (key, item) :: rest => key :: item :: inTurn rest

def inPairs : List Value -> List (Value × Value)
  | key :: item :: rest => (key, item) :: inPairs rest
  | _ => []

def pairsOf (entries : List (Valued × Valued)) : Except Flaw (List (Value × Value)) :=
  Valued.deeper ((Valued.all (inTurn entries)).map inPairs)

/-- The entries of a mapping, unless something else than mappings is merged into it. -/
def entriesOf (entries : Option (List (Valued × Valued) × List (Valued × Valued))) :
    Except Flaw (List (Value × Value)) :=
  match entries with
  | none => Valued.deeper (.error { depth := 0, fault := .malformed })
  | some (merged, own) =>
    pairsOf ((merged ++ own).map fun entry => (keyValue entry.1, entry.2))

mutual

def Node.value : Node -> Valued
  | .scalar tag plain content => scalarValue tag plain content
  | .again => .ok .cycle
  | .sequence tag items =>
    if isOpenTag tag || tag == some (dataTag "seq") then
      (Valued.deeper (Valued.all (itemValues items))).map .list
    else if tag == some (dataTag "omap") || tag == some (dataTag "pairs") then
      (pairsOf (singleEntries items)).map fun pairs =>
        .list (pairs.map fun pair => .pair pair.1 pair.2)
    else
      let flaw := Valued.flawed .malformed
      if tag.any collectionTags.contains then Valued.deeper flaw else flaw
  | .mapping tag entries =>
    if isOpenTag tag || tag == some (dataTag "map") then
      (entriesOf (entryValues entries)).map mappingOf
    else if tag == some (dataTag "set") then
      (entriesOf (entryValues entries)).map fun found =>
        .unordered ((found.foldl (fun done entry => putKey done entry.1 entry.2) []).map Prod.fst)
    else match tag.bind fun tag => (taggedReader? tag).map fun read => (tag, read) with
    | some (tag, read) => scalarInMapping tag read entries
    | none =>
      let flaw := Valued.flawed .malformed
      if tag.any collectionTags.contains then Valued.deeper flaw else flaw

def itemValues : List Node -> List Valued
  | [] => []
  | item :: rest => item.value :: itemValues rest

/-- The key and the item of each mapping of one entry; another node is a flaw in its place. -/
def singleEntries : List Node -> List (Valued × Valued)
  | [] => []
  | .mapping _ [(key, item)] :: rest => (key.value, item.value) :: singleEntries rest
  | _ :: rest => (Valued.flawed .malformed, .ok .null) :: singleEntries rest

/-- The entries that are merged into a mapping, and its own ones; none if something else than
mappings is to be merged. -/
def entryValues :
    List (Node × Node) -> Option (List (Valued × Valued) × List (Valued × Valued))
  | [] => some ([], [])
  | (key, item) :: rest => do
    if key.isMerge then
      let found <- mergeValues item
      let (merged, own) <- entryValues rest
      some (found ++ merged, own)
    else
      let name := if key.isEquality then equalityKey key else key.value
      let (merged, own) <- entryValues rest
      some (merged, (name, item.value) :: own)

/-- The entries of what is merged: a mapping, or mappings of which the first wins. -/
def mergeValues : Node -> Option (List (Valued × Valued))
  | .mapping _ entries => (entryValues entries).map fun (merged, own) => merged ++ own
  | .sequence _ items => mergeAll items
  | .again => some []
  | .scalar _ _ _ => none

def mergeAll : List Node -> Option (List (Valued × Valued))
  | [] => some []
  | .mapping _ entries :: rest => do
    let (merged, own) <- entryValues entries
    let later <- mergeAll rest
    some (later ++ merged ++ own)
  | .again :: rest => mergeAll rest
  | _ :: _ => none

end

def read (content : String) : Except YamlFault Value :=
  match tokens? content with
  | none => .error .malformed
  | some tokens =>
    if tokens.contains .strayScalar then .error .noSuchValue
    else if tokens.contains .tooDeep then .error .tooDeep
    else match Node.ofTokens? tokens with
    | none => .error .malformed
    | some none => .ok .null
    | some (some node) => node.value.mapError Flaw.fault

end SensorAlerting.Yaml
