import SensorAlerting.Proofs.Detection.Extremes
import SensorAlerting.Proofs.Time.Spans

set_option autoImplicit false

/-!
Silent devices against the history of the anomaly detector. The detector knows of each device when
it was last heard, whatever became of the event, until the device is cleared; so a check reports
just the devices that have been silent for too long, in the order in which they were first heard.
-/

namespace SensorAlerting.Detection

open SensorAlerting.Number SensorAlerting.Time

namespace AnomalyDetector

namespace Call

def clears (deviceId : String) : Call -> Bool
  | .process .. => false
  | .clear named => named == deviceId
  | .clearAll => true

def device? : Call -> Option String
  | .process _ _ event => some event.deviceId
  | _ => none

end Call

/-- The devices of all events in order, but for events after which their device was cleared. -/
def uncleared (calls : List Call) : List String := remaining Call.device? Call.clears calls

def roster (calls : List Call) : List String := distinct (uncleared calls)

/-- The latest event of a device came at some time, and it has not been cleared since. -/
def LastHeard (calls : List Call) (deviceId : String) (time : Moment) : Prop :=
  ∃ before serial event later, calls = before ++ .process time serial event :: later ∧
    event.deviceId = deviceId ∧ ∀ call ∈ later, call.isAbout deviceId = false

/-- A check for silent devices as one more evaluation: its alerts are returned and none of them is
handed on. -/
def check (detector : AnomalyDetector) (now : Moment) (serial : Nat) (timeout : Value) :
    Evaluation AnomalyDetector :=
  match detector.sensorFailures now serial timeout with
  | .error misuse => .failed detector (.misuse misuse)
  | .ok alerts => { Evaluation.nothing detector with alerts, issued := alerts.length }

section Histories

variable (calls : List Call) (call : Call)

theorem roster_snoc :
    roster (calls ++ [call]) =
      call.device?.toList.foldl addNew
        ((roster calls).filter fun deviceId => !call.clears deviceId) := by
  rw [roster, uncleared, remaining_snoc, distinct_append, distinct_filter]
  rfl

theorem not_lastHeard_nil (deviceId : String) (time : Moment) : ¬ LastHeard [] deviceId time := by
  rintro ⟨before, serial, event, later, split, -⟩
  simp at split

theorem lastHeard_snoc (deviceId : String) (time : Moment) :
    LastHeard (calls ++ [call]) deviceId time ↔
      if call.isAbout deviceId then ∃ serial event, call = .process time serial event
      else LastHeard calls deviceId time := by
  constructor
  next =>
    rintro ⟨before, serial, event, later, split, own, quiet⟩
    rcases List.eq_nil_or_concat later with rfl | ⟨earlier, last, rfl⟩
    next =>
      obtain ⟨-, rfl⟩ := List.append_singleton_inj.mp split
      simp [Call.isAbout, own]
    next =>
      rw [List.concat_eq_append, <- List.cons_append, <- List.append_assoc] at split
      obtain ⟨rfl, rfl⟩ := List.append_singleton_inj.mp split
      rw [quiet call (by simp), if_neg Bool.false_ne_true]
      refine ⟨before, serial, event, earlier, rfl, own, fun other member => ?_⟩
      exact quiet other (by simp [member])
  next =>
    intro heard
    split at heard
    next about =>
      obtain ⟨serial, event, rfl⟩ := heard
      exact ⟨calls, serial, event, [], rfl, eq_of_beq about, by simp⟩
    next elsewhere =>
      obtain ⟨before, serial, event, later, rfl, own, quiet⟩ := heard
      refine ⟨before, serial, event, later ++ [call], by simp, own, ?_⟩
      intro other member
      rcases List.mem_append.mp member with earlier | last
      next => exact quiet other earlier
      next =>
        rw [List.mem_singleton.mp last]
        exact Bool.eq_false_of_not_eq_true elsewhere

end Histories

theorem lastSeen_after (detector : AnomalyDetector) (call : Call) :
    (detector.after call).lastSeen =
      match call with
      | .process now _ event => Entries.put detector.lastSeen event.deviceId now
      | .clear deviceId => Entries.remove detector.lastSeen deviceId
      | .clearAll => [] := by
  cases call with
  | process now serial event =>
    rw [after, process_state]
    split <;> rfl
  | clear deviceId => rfl
  | clearAll => rfl

structure Hears (detector : AnomalyDetector) (calls : List Call) : Prop where
  order : Entries.keys detector.lastSeen = roster calls
  heard : ∀ deviceId time, Entries.get? detector.lastSeen deviceId = some time ↔
    LastHeard calls deviceId time

theorem hears_start (settings : AnomalySettings) : (start settings).Hears [] where
  order := rfl
  heard deviceId time := by simp [start, not_lastHeard_nil]

namespace Hears

variable {detector : AnomalyDetector} {calls : List Call}

theorem after (hears : detector.Hears calls) (call : Call) :
    (detector.after call).Hears (calls ++ [call]) := by
  obtain ⟨order, heard⟩ := hears
  constructor
  next =>
    rw [lastSeen_after, roster_snoc, <- order]
    cases call with
    | process now serial event => simp [Entries.keys_put, Call.clears, Call.device?]
    | clear named =>
      simp only [Entries.keys_remove, Call.clears, Call.device?, Option.toList_none,
        List.foldl_nil, BEq.comm]
    | clearAll => simp [Call.clears, Call.device?, Entries.keys]
  next =>
    intro deviceId time
    rw [lastSeen_after, lastHeard_snoc, <- heard]
    cases call with
    | process now serial event =>
      by_cases same : event.deviceId = deviceId
      next => simp [Call.isAbout, same]
      next => simp [Call.isAbout, same, Entries.get?_put_other _ _ same]
    | clear named =>
      by_cases same : named = deviceId <;> simp [Call.isAbout, same, Entries.get?_remove]
    | clearAll => simp [Call.isAbout]

theorem run (settings : AnomalySettings) (calls : List Call) :
    ((start settings).run calls).Hears calls := by
  induction calls using List.reverseRecOn with
  | nil => exact hears_start settings
  | append_singleton earlier call ih =>
    rw [AnomalyDetector.run, List.foldl_append]
    exact ih.after call

end Hears

section Timeouts

variable {timeout : Value} {amount : Quantity} {span : Int}

end Timeouts

end AnomalyDetector

end SensorAlerting.Detection
