import SensorAlerting.Stream.Entry

set_option autoImplicit false

/-!
A consumer of the event stream. It waits for one thing at a time: for its group to be made, for a
batch of entries, for an acknowledgement, or for the next payload to be asked for. An entry is
acknowledged only when the payload after it is asked for; one that is no payload at once.
-/

namespace SensorAlerting.Stream

structure Entry where
  entryId : Value
  fields : Value

inductive SourceFault where
  | notConnected
  | group (reason : String)
  | entry (fault : EntryFault)
deriving DecidableEq, Repr

inductive Phase where
  | idle
  | grouping
  | reading
  | pausing
  | acking (entryId : Value) (rest : List Entry)
  | holding (entryId : Value) (payload : Entries String Value) (rest : List Entry)
  | ended
  | failed (fault : SourceFault)

inductive Signal where
  | pulled
  | grouped (refusal : Option String)
  | entries (batch : List Entry)
  | readFailed
  | readBroken (misuse : Misuse)
  | rested
  | acked (success : Bool)

structure Source where
  closed : Bool
  connected : Bool
  groupReady : Bool
  phase : Phase

namespace Source

def start (connected : Bool) : Source :=
  { closed := false, connected, groupReady := false, phase := .idle }

def ifConnected (source : Source) (phase : Phase) : Source :=
  { source with phase := if source.connected then phase else .failed .notConnected }

def readOn (source : Source) : Source :=
  if source.closed then { source with phase := .ended } else source.ifConnected .reading

def handOn (source : Source) : List Entry -> Source
  | [] => source.readOn
  | entry :: rest =>
    match decodeValue entry.fields with
    | .ok payload => { source with phase := .holding entry.entryId payload rest }
    | .error fault =>
      if fault.isFatal then { source with phase := .failed (.entry fault) }
      else source.ifConnected (.acking entry.entryId rest)

def isGroupThere (refusal : String) : Bool := mentions "BUSYGROUP".toList refusal.toList

def resume (source : Source) (signal : Signal) : Source :=
  match source.phase, signal with
  | .idle, .pulled =>
    if source.groupReady then source.readOn else source.ifConnected .grouping
  | .grouping, .grouped none => { source with groupReady := true }.readOn
  | .grouping, .grouped (some refusal) =>
    if isGroupThere refusal then { source with groupReady := true }.readOn
    else { source with phase := .failed (.group refusal) }
  | .reading, .entries batch => source.handOn batch
  | .reading, .readFailed =>
    { source with phase := if source.closed then .ended else .pausing }
  | .reading, .readBroken misuse => { source with phase := .failed (.entry (.misuse misuse)) }
  | .pausing, .rested => source.readOn
  | .acking _ rest, .acked _ => source.handOn rest
  | .holding entryId _ rest, .pulled => source.ifConnected (.acking entryId rest)
  | _, _ => source

def close (source : Source) : Source := { source with closed := true, connected := false }

end Source

end SensorAlerting.Stream
