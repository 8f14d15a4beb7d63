import SensorAlerting.Proofs.Detection.Agreement

set_option autoImplicit false

/-!
The occupancy of a location as a machine of two states. What is reported of a location since it was
last cleared goes to and fro between the two, and the flag is always at what was reported last.
-/

namespace SensorAlerting.Detection.CorrelationTracker

open SensorAlerting.Number SensorAlerting.Time

def changeOf? (location : String) (submission : Submission) : Option (Value × String) :=
  if submission.alert.ruleId = "correlation_occupancy_change" ∧
      submission.alert.location = some location then
    some (submission.alert.value, submission.alert.message)
  else none

def changeTo (occupied : Bool) : Value × String :=
  (.bool occupied, if occupied then "Space occupied" else "Space vacated")

def changesAfter (location : String) (tracker : CorrelationTracker)
    (changes : List (Value × String)) : Call -> List (Value × String)
  | .process arrival serial =>
    changes ++
      (tracker.perform (.process arrival serial)).submissions.filterMap (changeOf? location)
  | call => if call.isAbout location then [] else changes

def changesOf (location : String) : CorrelationTracker -> List (Value × String) -> List Call ->
    List (Value × String)
  | _, changes, [] => changes
  | tracker, changes, call :: rest =>
    changesOf location (tracker.after call) (changesAfter location tracker changes call) rest

/-- Occupied first, then vacant, and so on. -/
def alternating (count : Nat) : List (Value × String) :=
  (List.range count).map fun place => changeTo (place % 2 == 0)

def ReportsPresence (settings : CorrelationSettings) (event : Event) : Prop :=
  isPresencePositive settings event = .ok true ∨ isMotionPositive settings event = .ok true

theorem occupancyAfter_true {settings : CorrelationSettings} {event : Event}
    (passed : occupancyAfter settings event false = .ok true) :
    ReportsPresence settings event := by
  unfold occupancyAfter at passed
  split at passed
  next => exact .inl passed
  next =>
    cases motion : isMotionPositive settings event with
    | error fault => simp [motion, bind, Except.bind] at passed
    | ok moved =>
      cases moved with
      | true => exact .inr motion
      | false => simp [motion, bind, Except.bind, pure, Except.pure] at passed

theorem occupancyAfter_false {settings : CorrelationSettings} {event : Event}
    (passed : occupancyAfter settings event true = .ok false) :
    event.sensorType ∈ settings.presenceTypes := by
  unfold occupancyAfter at passed
  split at passed
  next presence => exact List.contains_iff_mem.mp presence
  next =>
    cases motion : isMotionPositive settings event with
    | error fault => simp [motion, bind, Except.bind] at passed
    | ok moved => cases moved <;> simp [motion, bind, Except.bind, pure, Except.pure] at passed

def changeIn? (found : Match) : Option (Value × String) :=
  if found.correlationType = "occupancy_change" then some (found.value, found.description)
  else none

theorem changeOf?_submissionOf (arrival : Arrival) (location : String) (found : Match)
    (serial : Nat) : changeOf? location (submissionOf arrival found serial) =
      if arrival.event.location = location then changeIn? found else none := by
  have whole : "correlation_occupancy_change" = "correlation_" ++ "occupancy_change" := by decide
  have named : "correlation_" ++ found.correlationType = "correlation_occupancy_change" ↔
      found.correlationType = "occupancy_change" := by
    rw [whole]
    exact String.append_right_inj _
  by_cases same : arrival.event.location = location <;>
    simp [changeOf?, submissionOf, alertOf, changeIn?, named, same]

theorem changeIn?_eq_none {found? : Option Match}
    (other : found?.map Match.correlationType ≠ some "occupancy_change") :
    found?.bind changeIn? = none := by
  cases found? with
  | none => rfl
  | some found =>
    have away : found.correlationType ≠ "occupancy_change" := by simpa using other
    simp [changeIn?, away]

theorem changeIn?_occupancyChange (previous next : Bool) :
    (occupancyChange previous next).bind changeIn? =
      if next = previous then none else some (changeTo next) := by
  cases previous <;> cases next <;> rfl

theorem changes_of_findings {settings : CorrelationSettings} {event : Event}
    {recent : List BufferedEvent} {previous next : Bool} {found : List Match}
    (matched : findings settings event recent previous = .ok (next, found)) :
    found.filterMap changeIn? = if next = previous then [] else [changeTo next] := by
  obtain ⟨presence, gas, shown, smelled, -, rfl⟩ := findings_cases matched
  have noPresence : presence.bind changeIn? = none := by
    refine changeIn?_eq_none ?_
    rw [type_presenceWithMotion shown]
    exact presencePattern_other (by decide) (by decide)
  have noGas : gas.bind changeIn? = none := by
    refine changeIn?_eq_none ?_
    cases gas with
    | none => simp
    | some found =>
      rw [Option.map_some, type_gasWithOccupancy smelled]
      decide
  have noAnomaly : (multiSensorAnomaly event.location recent).bind changeIn? = none := by
    refine changeIn?_eq_none ?_
    rw [type_multiSensorAnomaly]
    exact anomalyPattern_other (by decide)
  have change := changeIn?_occupancyChange previous next
  rw [List.filterMap_filterMap]
  simp only [id, List.filterMap_cons, noPresence, noGas, noAnomaly, change, List.filterMap_nil]
  by_cases same : next = previous <;> simp [same]

theorem Passage.changes {tracker : CorrelationTracker} {arrival : Arrival} {serial : Nat}
    (passage : tracker.Passage arrival serial) (location : String) :
    (tracker.perform (.process arrival serial)).submissions.filterMap (changeOf? location) =
      if arrival.event.location = location ∧
          passage.next ≠ tracker.isOccupied arrival.event.location then
        [changeTo passage.next]
      else [] := by
  rw [passage.submissions, submissionsOf,
    Evaluation.numbered_filterMap (changeOf?_submissionOf arrival location)]
  by_cases same : arrival.event.location = location
  next =>
    have change := changes_of_findings passage.matched
    rw [same] at change
    simp only [same, if_true, change, true_and, ne_eq, ite_not]
  next => simp [same]

theorem alternating_succ (count : Nat) :
    alternating (count + 1) = alternating count ++ [changeTo (count % 2 == 0)] := by
  simp [alternating, List.range_succ]

theorem odd_succ (count : Nat) : ((count + 1) % 2 == 1) = (count % 2 == 0) := by
  cases Nat.mod_two_eq_zero_or_one count with
  | inl even => simp [even, Nat.add_mod]
  | inr odd => simp [odd, Nat.add_mod]

/-- What has been said of a location agrees with its flag. -/
structure Told (location : String) (tracker : CorrelationTracker)
    (changes : List (Value × String)) : Prop where
  inTurn : changes = alternating changes.length
  flag : tracker.isOccupied location = (changes.length % 2 == 1)

namespace Told

variable {location : String} {tracker : CorrelationTracker} {changes : List (Value × String)}

theorem forgotten (vacant : tracker.isOccupied location = false) : Told location tracker [] where
  inTurn := rfl
  flag := vacant

theorem process {arrival : Arrival} {serial : Nat} (told : Told location tracker changes)
    (passage : tracker.Passage arrival serial) :
    Told location (tracker.after (.process arrival serial))
      (changesAfter location tracker changes (.process arrival serial)) := by
  obtain ⟨inTurn, flag⟩ := told
  have flagged := passage.isOccupied_after location
  rw [changesAfter, passage.changes location]
  by_cases here : arrival.event.location = location
  next =>
    subst here
    rw [if_pos rfl] at flagged
    by_cases same : passage.next = tracker.isOccupied arrival.event.location
    next =>
      rw [if_neg (fun changed => changed.2 same), List.append_nil]
      exact ⟨inTurn, by rw [flagged, same, flag]⟩
    next =>
      -- The flag that it is not is the one whose turn it is.
      have turn : passage.next = (changes.length % 2 == 0) := by
        rw [flag] at same
        cases Nat.mod_two_eq_zero_or_one changes.length with
        | inl even => simpa [even] using same
        | inr odd => simpa [odd] using same
      have grown : (changes ++ [changeTo passage.next]).length = changes.length + 1 :=
        List.length_append
      rw [if_pos ⟨rfl, same⟩]
      refine ⟨?_, ?_⟩
      · rw [grown, alternating_succ, <- inTurn, turn]
      · rw [grown, odd_succ, flagged, turn]
  next =>
    rw [if_neg here] at flagged
    rw [if_neg (fun changed => here changed.1), List.append_nil]
    exact ⟨inTurn, by rw [flagged, flag]⟩

theorem failed {arrival : Arrival} {serial : Nat} (told : Told location tracker changes)
    (failed : (tracker.perform (.process arrival serial)).failure ≠ none) :
    Told location (tracker.after (.process arrival serial))
      (changesAfter location tracker changes (.process arrival serial)) := by
  have stuck := stuck_of_failed failed
  rw [changesAfter, stuck.submissions, List.filterMap_nil, List.append_nil]
  exact ⟨told.inTurn, (stuck.isOccupied location).trans told.flag⟩

theorem after (told : Told location tracker changes) (call : Call) :
    Told location (tracker.after call) (changesAfter location tracker changes call) := by
  cases call with
  | process arrival serial =>
    by_cases passed : (tracker.perform (.process arrival serial)).failure = none
    next =>
      obtain ⟨passage⟩ := passage_of_passed passed
      exact told.process passage
    next => exact told.failed passed
  | clear named =>
    have flagged : (tracker.after (.clear named)).isOccupied location = _ :=
      tracker.isOccupied_clear named location
    have said : changesAfter location tracker changes (.clear named) =
        if named = location then [] else changes := by
      simp [changesAfter, Call.isAbout]
    rw [said]
    by_cases same : named = location
    next =>
      rw [if_pos same] at flagged ⊢
      exact forgotten flagged
    next =>
      rw [if_neg same] at flagged ⊢
      exact ⟨told.inTurn, flagged.trans told.flag⟩
  | clearAll => exact forgotten rfl

theorem run (told : Told location tracker changes) (calls : List Call) :
    Told location (tracker.run calls) (changesOf location tracker changes calls) := by
  induction calls generalizing tracker changes with
  | nil => exact told
  | cons call rest ih => exact ih (told.after call)

theorem last (told : Told location tracker changes) :
    (changes.getLast?.map Prod.fst).getD (.bool false) = .bool (tracker.isOccupied location) := by
  rw [told.flag, told.inTurn]
  cases changes.length with
  | zero => rfl
  | succ count =>
    have listed : (alternating (count + 1)).length = count + 1 := by simp [alternating]
    rw [listed, odd_succ, alternating_succ, List.getLast?_concat]
    rfl

theorem isOccupied_iff (told : Told location tracker changes) :
    tracker.isOccupied location = true ↔ changes.getLast? = some (changeTo true) := by
  rw [told.flag, told.inTurn]
  cases changes.length with
  | zero => simp [alternating]
  | succ count =>
    have listed : (alternating (count + 1)).length = count + 1 := by simp [alternating]
    rw [listed, odd_succ, alternating_succ, List.getLast?_concat]
    cases count % 2 == 0 <;> simp [changeTo]

end Told

def MayTurn (settings : CorrelationSettings) (location : String) (old new : Bool) : Call -> Prop
  | .process arrival _ =>
    (old ≠ new -> arrival.event.location = location ∧
      (new = true -> ReportsPresence settings arrival.event) ∧
      (new = false -> arrival.event.sensorType ∈ settings.presenceTypes)) ∧
    (arrival.event.sensorType ∉ settings.presenceTypes ->
      isMotionPositive settings arrival.event ≠ .ok true -> new = old)
  | call => new = if call.isAbout location then false else old

theorem occupancyAfter_unmoved {settings : CorrelationSettings} {event : Event}
    {previous next : Bool} (passed : occupancyAfter settings event previous = .ok next)
    (other : event.sensorType ∉ settings.presenceTypes)
    (unmoved : isMotionPositive settings event ≠ .ok true) : next = previous := by
  rw [occupancyAfter, if_neg (fun listed => other (List.contains_iff_mem.mp listed))] at passed
  cases motion : isMotionPositive settings event with
  | error fault => simp [motion, bind, Except.bind] at passed
  | ok moved =>
    cases moved with
    | true => exact absurd motion unmoved
    | false =>
      simp only [motion, bind, Except.bind, Bool.false_eq_true, if_false] at passed
      exact (Except.ok.inj passed).symm

theorem mayTurn_after {tracker : CorrelationTracker} {call : Call}
    (passed : (tracker.perform call).failure = none) (location : String) :
    MayTurn tracker.settings location (tracker.isOccupied location)
      ((tracker.after call).isOccupied location) call := by
  cases call with
  | process arrival serial =>
    obtain ⟨passage⟩ := passage_of_passed passed
    have occupied := passage.occupied
    rw [passage.isOccupied_after location]
    by_cases here : arrival.event.location = location
    next =>
      rw [here] at occupied
      rw [if_pos here]
      refine ⟨fun changed => ⟨here, fun up => ?_, fun down => ?_⟩, occupancyAfter_unmoved occupied⟩
      · rw [up] at occupied changed
        rw [eq_false_of_ne_true changed] at occupied
        exact occupancyAfter_true occupied
      · rw [down] at occupied changed
        rw [eq_true_of_ne_false changed] at occupied
        exact occupancyAfter_false occupied
    next =>
      rw [if_neg here]
      exact ⟨fun changed => absurd rfl changed, fun _ _ => rfl⟩
  | clear named =>
    have flagged : (tracker.after (.clear named)).isOccupied location = _ :=
      tracker.isOccupied_clear named location
    simpa only [MayTurn, Call.isAbout, beq_iff_eq] using flagged
  | clearAll => rfl

/-- What is said of the occupancy of a location since it was last cleared goes to and fro between
occupied and vacated, and the flag of the location is at what was said last. Only an event there
turns it, a positive one of presence or motion to occupied and one of a presence type to vacated.
What each call says it also returns. -/
theorem occupancy_alternates {settings : CorrelationSettings} {calls : List Call}
    (unfailing : (start settings).Unfailing calls) (location : String) :
    let changes := changesOf location (start settings) [] calls
    changes = alternating changes.length ∧
    (changes.getLast?.map Prod.fst).getD (.bool false) =
      .bool (((start settings).run calls).isOccupied location) ∧
    ∀ before call after, calls = before ++ call :: after ->
      let evaluation := ((start settings).run before).perform call
      MayTurn settings location (((start settings).run before).isOccupied location)
          (((start settings).run (before ++ [call])).isOccupied location) call ∧
        evaluation.alerts = evaluation.submissions.map Submission.alert := by
  intro changes
  have told : Told location ((start settings).run calls) changes :=
    (Told.forgotten rfl).run calls
  refine ⟨told.inTurn, told.last, ?_⟩
  rintro before call after rfl
  obtain ⟨-, late⟩ := unfailing.append
  have turned := mayTurn_after late.1 location
  rw [settings_run] at turned
  rw [run_concat]
  exact ⟨turned, alerts_of_passed late.1⟩

def report (sensorType location : String) (value : Int) : Event :=
  { deviceId := sensorType, sensorType, location, timestamp := universal 0
    readings := [("value", .int value)] }

def reported (minutes : Int) (event : Event) : Call :=
  .process { now := universal (minutes * minute), event, related := [] } 0

/-- Motion occupies the lab and its end does not vacate it, whatever goes on in the hall. -/
theorem occupancy_alternates_lab :
    let calls := [reported 0 (report "pir" "lab" 1), reported 0 (report "ld2410" "hall" 0),
      reported 1 (report "pir" "lab" 0), reported 2 (report "ld2410" "lab" 0),
      reported 3 (report "ld2410" "lab" 1)]
    let changes := changesOf "lab" (start .default) [] calls
    (start .default).Unfailing calls ∧ changes.length = 3 ∧
      changes = alternating changes.length ∧
      (changes.getLast?.map Prod.fst).getD (.bool false) = .bool true := by
  intro calls changes
  have unfailing : (start .default).Unfailing calls := by decide +kernel
  have alternates := occupancy_alternates unfailing "lab"
  have occupied : ((start .default).run calls).isOccupied "lab" = true := by decide +kernel
  exact ⟨unfailing, by decide +kernel, alternates.1, alternates.2.1.trans (by rw [occupied])⟩

/-- Where a sensor type counts for both presence and motion, the end of motion vacates a place. -/
theorem vacated_by_motion :
    let settings : CorrelationSettings :=
      { CorrelationSettings.default with presenceTypes := ["radar"], motionTypes := ["radar"] }
    let still := report "radar" "lab" 0
    let occupied := (start settings).after (reported 0 (report "radar" "lab" 1))
    (start settings).Unfailing [reported 0 (report "radar" "lab" 1), reported 0 still] ∧
      still.sensorType ∈ settings.motionTypes ∧ isMotionPositive settings still = .ok false ∧
      occupied.isOccupied "lab" = true ∧
      (occupied.after (reported 0 still)).isOccupied "lab" = false := by
  intro settings still occupied
  exact ⟨by decide +kernel, by decide, by rfl, by decide +kernel, by decide +kernel⟩

end SensorAlerting.Detection.CorrelationTracker
