import SensorAlerting.Event
import SensorAlerting.Json.Form
import SensorAlerting.Settings.Sections
import SensorAlerting.Snapshot.Database
import SensorAlerting.Time.Epoch

set_option autoImplicit false

/-!
Snapshots in a database: the latest payload of each device as JSON, and for each sensor type an
index of the newest payloads by time. A write that fails is counted and otherwise ignored.
-/

namespace SensorAlerting.Snapshot

open SensorAlerting.Number

def Command.toValue : Command -> Value
  | .set key content seconds => .list [.text "set", .text key, .text content, .int seconds]
  | .addRanked key item =>
    .list [.text "zadd", .text key, .list [.list [.text item.member, .int item.score]]]
  | .removeRanks key first last =>
    .list [.text "zremrangebyrank", .text key, .int first, .int last]

structure Store where
  lifetimeSeconds : Int
  recentLimit : Int
  database : Option Database
  connected : Bool
  failing : Bool
  failures : Nat

inductive StoreProblem where
  | notConnected
deriving DecidableEq, Repr

def StoreProblem.message : StoreProblem -> String
  | .notConnected => "Redis client is not connected"

inductive SaveFault where
  | unwritable (fault : Json.WriteFault)
  | time (fault : Time.EpochFault)
deriving DecidableEq, Repr

namespace Store

def create (settings : Settings.Storage) (database : Option Database) : Store :=
  { lifetimeSeconds := settings.latestSeconds
    recentLimit := settings.recentLimit
    database
    connected := database.isSome
    failing := false
    failures := 0 }

def latestKey (deviceId : String) : String := "event:" ++ deviceId ++ ":latest"

def recentKey (sensorType : String) : String := "events:" ++ sensorType

def isConnected (store : Store) : Bool := store.connected && store.database.isSome

def scoreOf (event : Event) : Except Time.EpochFault Int :=
  event.timestamp.epochSeconds.map fun seconds => (truncate? (seconds * 1000)).getD 0

def contentOf (event : Event) : Except Json.WriteFault String := Json.writeForm event.toPayload

def commandsFor (store : Store) (event : Event) : Except SaveFault (List Command) := do
  let content <- (contentOf event).mapError .unwritable
  let score <- (scoreOf event).mapError .time
  let key := recentKey event.sensorType
  .ok [.set (latestKey event.deviceId) content store.lifetimeSeconds,
    .addRanked key { member := content, score },
    .removeRanks key 0 (-(store.recentLimit + 1))]

def countFailure (store : Store) : Store := { store with failures := store.failures + 1 }

/-- Writes an event. The commands carried out are none if the write is refused or fails. An event
of which the payload cannot be written or the time cannot be told is not written. -/
def save (store : Store) (event : Event) : Except SaveFault (Store × List Command) :=
  match store.database with
  | some database =>
    if !store.connected then .ok (store.countFailure, [])
    else do
      let commands <- store.commandsFor event
      if store.failing then .ok (store.countFailure, [])
      else .ok ({ store with database := some (database.executeAll commands) }, commands)
  | none => .ok (store.countFailure, [])

def client (store : Store) : Except StoreProblem Database :=
  match store.database with
  | some database => if store.connected then .ok database else .error .notConnected
  | none => .error .notConnected

def latest (store : Store) (deviceId : String) : Except StoreProblem (Option Value) :=
  store.client.map fun database =>
    (Entries.get? database.texts (latestKey deviceId)).bind fun content =>
      if content.isEmpty then none else Json.read? content

def ping (store : Store) : Bool := store.database.isSome && !store.failing

def disconnect (store : Store) : Store := { store with connected := false }

def failWrites (store : Store) (failing : Bool) : Store := { store with failing }

end Store

end SensorAlerting.Snapshot
