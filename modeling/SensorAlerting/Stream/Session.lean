import SensorAlerting.Settings.Basic
import SensorAlerting.Stream.Source
import SensorAlerting.Time.Span
import SensorAlerting.Value.Access

set_option autoImplicit false

/-!
A source read against a script: what each read brings, whether the group can be made, and how many
acknowledgements fail at first. Once the script is used up the next read closes the source.
-/

namespace SensorAlerting.Stream

inductive ReadOutcome where
  | batch (entries : List Entry)
  | failure
  | broken (misuse : Misuse)

def Entry.ofValue (value : Value) : Except Misuse Entry := do
  match <- value.asItems with
  | [entryId, fields] => .ok { entryId, fields }
  | _ => .error .impossible

/-- A mapping stands for a failed read, and a list of entries for a batch. -/
def ReadOutcome.ofValue : Value -> ReadOutcome
  | .mapping _ => .failure
  | value =>
    match value.asItems.bind fun entries => entries.mapM Entry.ofValue with
    | .ok entries => .batch entries
    | .error misuse => .broken misuse

structure Script where
  reads : List ReadOutcome
  refusal : Option String
  failingAcks : Nat

structure Session where
  source : Source
  script : Script
  received : List (Entries String Value × List Value)
  acked : List Value
  groups : Nat
  reads : Nat
  time : Int

namespace Session

def defaultConsumer : String := "analytics-worker"

/-- The name under which a consumer reads: its own, or the one in the settings. -/
def consumerName (own : Value) (settings : Settings.Storage) : Value :=
  if !own.isEmpty then own
  else .text ((settings.consumerName.filter fun name => !name.isEmpty).getD defaultConsumer)

def retryPause : Int := Time.second

def start (script : Script) : Session :=
  { source := .start true
    script
    received := []
    acked := []
    groups := 0
    reads := 0
    time := 0 }

def tell (session : Session) (signal : Signal) : Session :=
  { session with source := session.source.resume signal }

def answerRead (session : Session) : Session :=
  let session := { session with reads := session.reads + 1 }
  match session.script.reads with
  | .batch entries :: later =>
    { session with script := { session.script with reads := later } }.tell (.entries entries)
  | .failure :: later =>
    { session with script := { session.script with reads := later } }.tell .readFailed
  | .broken misuse :: later =>
    { session with script := { session.script with reads := later } }.tell (.readBroken misuse)
  | [] => { session with source := session.source.close }.tell (.entries [])

def answerAck (session : Session) (entryId : Value) : Session :=
  match session.script.failingAcks with
  | 0 => { session with acked := session.acked ++ [entryId] }.tell (.acked true)
  | failing + 1 =>
    { session with script := { session.script with failingAcks := failing } }.tell (.acked false)

def answerGroup (session : Session) : Session :=
  match session.script.refusal with
  | some refusal => session.tell (.grouped (some refusal))
  | none => { session with groups := session.groups + 1 }.tell (.grouped none)

def run (take : Option Nat) : Nat -> Session -> Session
  | 0, session => session
  | fuel + 1, session =>
    match session.source.phase with
    | .idle =>
      if take == some 0 then session else run take fuel (session.tell .pulled)
    | .grouping => run take fuel session.answerGroup
    | .reading => run take fuel session.answerRead
    | .pausing => run take fuel ({ session with time := session.time + retryPause }.tell .rested)
    | .acking entryId _ => run take fuel (session.answerAck entryId)
    | .holding _ payload _ =>
      let session := { session with received := session.received ++ [(payload, session.acked)] }
      if take == some session.received.length then session
      else run take fuel (session.tell .pulled)
    | .ended => session
    | .failed _ => session

def stepsFor (script : Script) : Nat :=
  script.reads.foldl (fun steps outcome =>
    match outcome with
    | .batch entries => steps + 2 * entries.length + 2
    | _ => steps + 2) 8

def readValue (settings : Settings.Storage) (consumer : Value) : Value :=
  .mapping [("groupname", .text settings.consumerGroup), ("consumername", consumer),
    ("streams", .mapping [(settings.stream, .text ">")]), ("count", .int settings.readCount),
    ("block", .int settings.blockMillis)]

/-- The group that a session makes, as data: it starts at the first entry of the stream, which is
made if need be. -/
def groupValue (settings : Settings.Storage) : Value :=
  .list [.text settings.stream, .text settings.consumerGroup, .text "0", .bool true]

def toFields (settings : Settings.Storage) (consumer : Value) (session : Session) :
    Entries String Value :=
  [("received", .list (session.received.map fun (payload, acked) =>
      .list [.mapping payload, .list acked])),
    ("acked", .list session.acked),
    ("groups", .list (List.replicate session.groups (groupValue settings))),
    ("reads", Value.ofNat session.reads),
    ("first_read", if session.reads == 0 then .null else readValue settings consumer),
    ("loop_seconds", .float (Time.spanSeconds session.time))]

def fault? (session : Session) : Option SourceFault :=
  match session.source.phase with
  | .failed fault => some fault
  | _ => none

end Session

end SensorAlerting.Stream
