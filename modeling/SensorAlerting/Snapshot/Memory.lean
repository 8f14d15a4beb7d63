import SensorAlerting.Capacity
import SensorAlerting.Event

set_option autoImplicit false

namespace SensorAlerting.Snapshot

structure Memory where
  limit : Value
  latest : Entries String Event
  recent : Entries String (List Event)

namespace Memory

def defaultLimit : Value := .int 1000

def empty (limit : Value) : Memory := { limit, latest := [], recent := [] }

def eventsOf (memory : Memory) (sensorType : String) : List Event :=
  (Entries.get? memory.recent sensorType).getD []

def keepLatest (memory : Memory) (event : Event) : Memory :=
  { memory with latest := Entries.put memory.latest event.deviceId event }

def keepRecent (memory : Memory) (bound : Bound) (event : Event) : Memory :=
  { memory with
    recent := Entries.put memory.recent event.sensorType
      (keepNewest bound (memory.eventsOf event.sensorType ++ [event])) }

/-- Keeps an event. A limit that is no bound leaves it out of the events of its type. -/
def save (memory : Memory) (event : Event) : Memory × Option Misuse :=
  let memory := memory.keepLatest event
  match memory.limit.asBound with
  | .ok bound => (memory.keepRecent bound event, none)
  | .error misuse => (memory, some misuse)

def getLatest? (memory : Memory) (deviceId : String) : Option Event :=
  Entries.get? memory.latest deviceId

def getRecent (memory : Memory) (sensorType : String) (limit : Int) : List Event :=
  newest limit (memory.eventsOf sensorType)

def latestBy (memory : Memory) (deviceId : Value) : Except Misuse (Option Event) :=
  deviceId.asKey.map fun deviceId => deviceId.bind memory.getLatest?

def recentBy (memory : Memory) (sensorType limit : Value) : Except Misuse (List Event) := do
  let sensorType <- sensorType.asKey
  newestBy limit ((sensorType.map memory.eventsOf).getD [])

end Memory

end SensorAlerting.Snapshot
