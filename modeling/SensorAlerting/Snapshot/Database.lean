import SensorAlerting.Entries

set_option autoImplicit false

/-!
The part of a key-value database that snapshots use: texts, and ranked sets of texts with a score.
A ranked set is kept in the order of score and text, and holds each text once.
-/

namespace SensorAlerting.Snapshot

structure Ranked where
  member : String
  score : Int
deriving DecidableEq, Repr

inductive Command where
  | set (key content : String) (seconds : Int)
  | addRanked (key : String) (item : Ranked)
  | removeRanks (key : String) (first last : Int)
deriving DecidableEq, Repr

structure Database where
  texts : Entries String String
  ranked : Entries String (List Ranked)

namespace Database

def empty : Database := { texts := [], ranked := [] }

def isBefore (left right : Ranked) : Bool :=
  decide (left.score < right.score) ||
    (left.score == right.score && decide (left.member < right.member))

def insertRanked (item : Ranked) : List Ranked -> List Ranked
  | [] => [item]
  | first :: rest =>
    if isBefore item first then item :: first :: rest else first :: insertRanked item rest

def addTo (item : Ranked) (members : List Ranked) : List Ranked :=
  insertRanked item (members.filter fun other => !(other.member == item.member))

def rankFrom (size : Nat) (rank : Int) : Int := if rank < 0 then rank + size else rank

/-- Removes the members from one rank to another, both included. -/
def removeFrom (first last : Int) (members : List Ranked) : List Ranked :=
  let first := (rankFrom members.length first).toNat
  let last := rankFrom members.length last
  if last < first then members
  else members.take first ++ members.drop (last.toNat + 1)

def rankedOf (database : Database) (key : String) : List Ranked :=
  (Entries.get? database.ranked key).getD []

def execute (database : Database) : Command -> Database
  | .set key content _ => { database with texts := Entries.put database.texts key content }
  | .addRanked key item =>
    { database with ranked := Entries.put database.ranked key (addTo item (database.rankedOf key)) }
  | .removeRanks key first last =>
    { database with
      ranked := Entries.put database.ranked key (removeFrom first last (database.rankedOf key)) }

def executeAll (database : Database) (commands : List Command) : Database :=
  commands.foldl execute database

end Database

end SensorAlerting.Snapshot
