import SensorAlerting.Proofs.Detection.Occupancy
import SensorAlerting.Proofs.Number.Order
import SensorAlerting.Proofs.Number.Quotients

set_option autoImplicit false

/-!
What takes a location from occupied to vacant. A presence sensor sets the flag by whether its event
says that somebody is there, so that an event which says nothing of it vacates a location as one
does that denies it.
-/

namespace SensorAlerting.Detection.CorrelationTracker

open SensorAlerting.Number SensorAlerting.Time

section Readings

def IsOne : Value -> Prop
  | .int number => number = 1
  | .float number => (number == 1) = true
  | _ => False

/-- A number other than one, or false. -/
def IsNegative : Value -> Prop
  | .int number => number ≠ 1
  | .float number => (number == 1) = false
  | .undefined _ => True
  | .bool flag => flag = false
  | _ => False

def Affirms (event : Event) : Prop :=
  IsOne (event.lookup ["value"]) ∨ event.lookup ["presence"] = .bool true

def Denies (event : Event) : Prop :=
  IsNegative (event.lookup ["value"]) ∨ event.lookup ["presence"] = .bool false

theorem isTrue_iff (value : Value) : isTrue value = true ↔ value = .bool true := by
  cases value <;> simp [isTrue]

theorem beq_one_iff {number : Int} {x : Float} (converted : ofInt? number = some x) :
    (x == 1) = true ↔ number = 1 := by
  have one : valueOf 1 = (1 : Int) := by decide +kernel
  rw [beq_iff_valueOf (isFinite_of_ofInt? converted) (by decide +kernel), one]
  exact valueOf_eq_iff_of_ofInt? converted (by norm_num)

theorem isOne_iff {event : Event} {number? : Option Float}
    (read : event.lookupNumber ["value"] = .ok number?) :
    number?.any (fun number => number == 1) = true ↔ IsOne (event.lookup ["value"]) := by
  unfold Event.lookupNumber at read
  cases stated : event.lookup ["value"] with
  | int number =>
    simp only [stated, Value.quantity?, Quantity.toFloat] at read
    cases converted : ofInt? number with
    | none => simp [converted, Except.map] at read
    | some x =>
      rw [converted] at read
      rw [<- Except.ok.inj read]
      exact beq_one_iff converted
  | float number =>
    simp only [stated, Value.quantity?, Quantity.toFloat] at read
    rw [<- Except.ok.inj read]
    exact Iff.rfl
  | undefined origin =>
    simp only [stated, Value.quantity?, Quantity.toFloat] at read
    rw [<- Except.ok.inj read]
    exact iff_of_false (by decide +kernel) not_false
  | _ =>
    simp only [stated, Value.quantity?] at read
    rw [<- Except.ok.inj read]
    simp [IsOne]

theorem isPresencePositive_iff {settings : CorrelationSettings} {event : Event} {positive : Bool}
    (listed : event.sensorType ∈ settings.presenceTypes)
    (read : isPresencePositive settings event = .ok positive) :
    positive = true ↔ Affirms event := by
  rw [isPresencePositive, if_pos (List.contains_iff_mem.mpr listed), reportsOne] at read
  cases found : event.lookupNumber ["value"] with
  | error fault => simp [found, bind, Except.bind] at read
  | ok number? =>
    simp only [found, bind, Except.bind] at read
    rw [<- Except.ok.inj read, Bool.or_eq_true, isOne_iff found, isTrue_iff]
    exact Iff.rfl

end Readings

theorem occupancyAfter_false_iff {settings : CorrelationSettings} {event : Event} {next : Bool}
    (passed : occupancyAfter settings event true = .ok next) :
    next = false ↔ event.sensorType ∈ settings.presenceTypes ∧ ¬ Affirms event := by
  by_cases listed : event.sensorType ∈ settings.presenceTypes
  next =>
    have read := passed
    rw [occupancyAfter, if_pos (List.contains_iff_mem.mpr listed)] at read
    rw [<- isPresencePositive_iff listed read, Bool.not_eq_true]
    exact (and_iff_right listed).symm
  next =>
    refine iff_of_false (fun vacant => listed ?_) (fun vacating => listed vacating.1)
    exact occupancyAfter_false (vacant ▸ passed)

def Vacates (tracker : CorrelationTracker) (arrival : Arrival) (serial : Nat)
    (location : String) : Prop :=
  tracker.isOccupied location = true ∧
    (tracker.after (.process arrival serial)).isOccupied location = false

section Step

variable (tracker : CorrelationTracker) (arrival : Arrival) (serial : Nat) (location : String)

theorem vacates_iff : tracker.Vacates arrival serial location ↔
    tracker.isOccupied location = true ∧
      (tracker.perform (.process arrival serial)).failure = none ∧
      arrival.event.location = location ∧
      arrival.event.sensorType ∈ tracker.settings.presenceTypes ∧ ¬ Affirms arrival.event := by
  refine and_congr_right fun occupied => ?_
  by_cases passed : (tracker.perform (.process arrival serial)).failure = none
  next =>
    obtain ⟨passage⟩ := passage_of_passed passed
    rw [passage.isOccupied_after location, and_iff_right passed]
    by_cases here : arrival.event.location = location
    next =>
      have settled := passage.occupied
      rw [here, occupied] at settled
      rw [if_pos here, and_iff_right here]
      exact occupancyAfter_false_iff settled
    next => simp [here, occupied]
  next =>
    -- A failed evaluation has not come to the flag.
    have kept : (tracker.after (.process arrival serial)).isOccupied location =
        tracker.isOccupied location := (stuck_of_failed passed).isOccupied location
    simp [kept, occupied, passed]

/-- An event that has gone through vacates an occupied location if it does not affirm presence,
whether it denies it or not: one without a value does, and one whose value is true, unless its
presence is true. -/
theorem vacated_by_reading :
    (tracker.Vacates arrival serial location ->
      arrival.event.location = location ∧
        arrival.event.sensorType ∈ tracker.settings.presenceTypes) ∧
    (Affirms arrival.event ∨
        Denies arrival.event ∧ arrival.event.lookup ["value"] ≠ .bool true ->
      tracker.Vacates arrival serial location ->
        Denies arrival.event ∧ arrival.event.lookup ["value"] ≠ .bool true) ∧
    (arrival.event.location = location ->
      arrival.event.sensorType ∈ tracker.settings.presenceTypes ->
      tracker.isOccupied location = true ->
      (tracker.perform (.process arrival serial)).failure = none ->
        (tracker.Vacates arrival serial location ↔ ¬ Affirms arrival.event) ∧
        (arrival.event.lookup ["value"] = .null ∨ arrival.event.lookup ["value"] = .bool true ->
          arrival.event.lookup ["presence"] ≠ .bool true ->
          tracker.Vacates arrival serial location)) := by
  refine ⟨fun vacates => ?_, fun spoken vacates => ?_, fun here listed occupied passed => ?_⟩
  · obtain ⟨-, -, here, listed, -⟩ := (vacates_iff tracker arrival serial location).mp vacates
    exact ⟨here, listed⟩
  · obtain ⟨-, -, -, -, quiet⟩ := (vacates_iff tracker arrival serial location).mp vacates
    exact spoken.resolve_left quiet
  · rw [vacates_iff]
    refine ⟨⟨fun vacates => vacates.2.2.2.2, fun quiet => ⟨occupied, passed, here, listed, quiet⟩⟩,
      fun silent absent => ⟨occupied, passed, here, listed, ?_⟩⟩
    rintro (one | present)
    · obtain missing | flagged := silent
      · rw [missing] at one
        exact one
      · rw [flagged] at one
        exact one
    · exact absent present

end Step

def reading (name : String) (value : Value) : Arrival :=
  { now := universal minute
    event := { report "ld2410" "lab" 1 with readings := [(name, value)] }
    related := [] }

/-- A presence sensor that reports its battery alone vacates the lab, and so does one whose value
is true, although neither has a negative reading. -/
theorem vacated_without_reading :
    let occupied := (start .default).after (reported 0 (report "ld2410" "lab" 1))
    let battery := reading "battery" (.int 5)
    let flagged := reading "value" (.bool true)
    ¬ Denies battery.event ∧ occupied.Vacates battery 0 "lab" ∧
      flagged.event.lookup ["value"] = .bool true ∧ ¬ Denies flagged.event ∧
      occupied.Vacates flagged 0 "lab" := by
  intro occupied battery flagged
  have lit : occupied.isOccupied "lab" = true := by decide +kernel
  have noPresence : ∀ name value, name ≠ "presence" ->
      (reading name value).event.lookup ["presence"] = .null := by
    intro name value other
    have away : (name == "presence") = false := by simpa using other
    simp [reading, Event.lookup, Event.isEnvelope, Event.envelopeNames, Entries.get?, away,
      Value.ofOption]
  refine ⟨?_, ⟨lit, by decide +kernel⟩, rfl, ?_, ⟨lit, by decide +kernel⟩⟩
  · rintro (negative | absent)
    · exact negative
    · rw [noPresence "battery" _ (by decide)] at absent
      cases absent
  · rintro (negative | absent)
    · cases negative
    · rw [noPresence "value" _ (by decide)] at absent
      cases absent

/-- A call that leaves a location alone, or at which somebody there is affirmed if it is by a
presence sensor. -/
def KeepsOccupied (settings : CorrelationSettings) (location : String) : Call -> Prop
  | .process arrival _ =>
    arrival.event.location = location ->
      arrival.event.sensorType ∈ settings.presenceTypes -> Affirms arrival.event
  | call => call.isAbout location = false

theorem isOccupied_after {tracker : CorrelationTracker} {location : String} {call : Call}
    (occupied : tracker.isOccupied location = true)
    (keeps : KeepsOccupied tracker.settings location call) :
    (tracker.after call).isOccupied location = true := by
  cases call with
  | process arrival serial =>
    by_contra vacant
    obtain ⟨-, -, here, listed, quiet⟩ := (vacates_iff tracker arrival serial location).mp
      ⟨occupied, eq_false_of_ne_true vacant⟩
    exact quiet (keeps here listed)
  | clear named =>
    have elsewhere : named ≠ location := by simpa [KeepsOccupied, Call.isAbout] using keeps
    have flagged : (tracker.after (.clear named)).isOccupied location = _ :=
      tracker.isOccupied_clear named location
    rw [flagged, if_neg elsewhere, occupied]
  | clearAll => cases keeps

/-- An occupied location stays occupied as long as it is not cleared and no presence sensor there
fails to affirm somebody, whatever else happens there and elsewhere. -/
theorem isOccupied_run {tracker : CorrelationTracker} {location : String} {calls : List Call}
    (occupied : tracker.isOccupied location = true)
    (keeps : ∀ call ∈ calls, KeepsOccupied tracker.settings location call) :
    (tracker.run calls).isOccupied location = true := by
  induction calls generalizing tracker with
  | nil => exact occupied
  | cons call rest ih =>
    have first := keeps call List.mem_cons_self
    refine ih (isOccupied_after occupied first) fun later member => ?_
    rw [settings_after]
    exact keeps later (List.mem_cons_of_mem call member)

end SensorAlerting.Detection.CorrelationTracker
