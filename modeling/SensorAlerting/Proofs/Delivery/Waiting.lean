import SensorAlerting.Proofs.Delivery.Scheduling
import SensorAlerting.Proofs.Items
import SensorAlerting.Proofs.Time.Waiting

set_option autoImplicit false

/-!
Waiting at a station comes to an end. At each instant that is come to some slot lands, and what the
queue asks for is counted before it begins, so that the load of a station falls with every wake.
-/

namespace SensorAlerting.Delivery

open SensorAlerting.Number SensorAlerting.Time

variable {time due : Int} {now : Moment}

namespace Slot

theorem land_cases (slot : Slot) (time : Int) (now : Moment) :
    slot.land time now = slot ∨
      slot.landed = none ∧ slot.land time now = { slot with landed := some now } := by
  unfold land
  split
  next lands =>
    refine .inr ⟨?_, rfl⟩
    rw [Bool.and_eq_true, Option.isNone_iff_eq_none] at lands
    exact lands.1
  next => exact .inl rfl

theorem isNone_of_land {slot : Slot} (stays : (slot.land time now).landed.isNone = true) :
    slot.landed.isNone = true := by
  obtain same | ⟨isAloft, -⟩ := slot.land_cases time now
  next => rwa [same] at stays
  next => rw [isAloft, Option.isNone_none]

theorem landed_of_nextDue {slot : Slot} (isNext : slot.nextDue = some due)
    (soon : due < reach time) :
    slot.landed.isNone = true ∧ (slot.land time now).landed = some now := by
  unfold nextDue at isNext
  split at isNext
  next => cases isNext
  next isAloft =>
    obtain ⟨finish, isFinish, rfl⟩ := Option.map_eq_some_iff.mp isNext
    have aloft : slot.landed.isNone = true := by simpa using isAloft
    refine ⟨aloft, ?_⟩
    simp [land, aloft, isDue, isFinish, soon]

end Slot

namespace Flight

theorem countP_land_le (slots : List Slot) (time : Int) (now : Moment) :
    (slots.map (Slot.land time now)).countP (fun slot => slot.landed.isNone) <=
      slots.countP fun slot => slot.landed.isNone := by
  rw [List.countP_map]
  exact List.countP_mono_left fun slot _ stays => Slot.isNone_of_land stays

theorem aloft_land_le (flight : Flight) (time : Int) (now : Moment) :
    (flight.land time now).aloft <= flight.aloft := countP_land_le flight.slots time now

theorem aloft_land_lt {flight : Flight} (isNext : flight.nextDue = some due)
    (soon : due < reach time) : (flight.land time now).aloft < flight.aloft := by
  obtain ⟨slot, member, isDue⟩ := List.mem_map.mp (mem_of_earliest isNext)
  obtain ⟨aloft, lands⟩ := @Slot.landed_of_nextDue time due now slot isDue soon
  obtain ⟨before, behind, split⟩ := List.append_of_mem member
  have early := countP_land_le before time now
  have late := countP_land_le behind time now
  simp only [Flight.aloft, land, split, List.map_append, List.map_cons, List.countP_append,
    List.countP_cons, lands, aloft, Option.isNone_some, Bool.false_eq_true, if_false, if_true]
  omega

end Flight

namespace Dispatcher

theorem length_requestedNames {channels : List Value} {names : List String}
    (requested : requestedNames (.list channels) = .ok names) :
    names.length <= channels.length := by
  obtain ⟨all, read, rfl⟩ : ∃ all, channels.mapM nameOf = .ok all ∧ distinct all = names := by
    cases read : channels.mapM nameOf with
    | error misuse => simp [requestedNames, Value.asItems, read, bind, Except.bind] at requested
    | ok all =>
      refine ⟨all, rfl, ?_⟩
      simpa [requestedNames, Value.asItems, read, bind, Except.bind] using requested
  exact Nat.le_trans (length_distinct_le all) (Nat.le_of_eq (length_of_mapM read))

theorem aloft_of_started {dispatcher after : Dispatcher} {start : Point} {alert : Alert}
    {channels : List Value} {flight : Flight}
    (begun : dispatcher.begin now start alert (.list channels) = (after, .started flight)) :
    flight.aloft <= channels.length := by
  unfold Dispatcher.begin at begun
  dsimp only at begun
  split at begun
  next => cases begun
  next =>
    cases requested : requestedNames (.list channels) with
    | error misuse =>
      rw [requested] at begun
      cases begun
    | ok names =>
      rw [requested] at begun
      obtain ⟨-, same⟩ := Prod.mk.inj begun
      obtain rfl := Begun.started.inj same
      refine Nat.le_trans List.countP_le_length ?_
      simpa [Flight.ofSlots] using length_requestedNames requested

theorem load_consume {dispatcher : Dispatcher} {comesFirst : Flight -> Bool} {turn : Nat}
    {submissions : List Submission} (free : dispatcher.current = none) :
    (consume now time comesFirst turn dispatcher submissions).load <= asked submissions := by
  induction submissions generalizing dispatcher turn with
  | nil => simp [consume, load, free, asked]
  | cons submission rest ih =>
    have all : asked (submission :: rest) = submission.channels.length + asked rest := rfl
    cases begun : dispatcher.begin now ⟨time, turn⟩ submission.alert
        (.list submission.channels) with
    | mk after outcome =>
      have consumer := dispatcher.begin_consumer
        ⟨now, ⟨time, turn⟩, submission.alert, .list submission.channels⟩
      simp only [Call.begin, begun, free] at consumer
      rw [consume, begun, all]
      cases outcome with
      | duplicate => exact Nat.le_trans (ih consumer.2) (Nat.le_add_left _ _)
      | misused misuse => exact Nat.le_trans (ih consumer.2) (Nat.le_add_left _ _)
      | started flight =>
        have few := aloft_of_started begun
        have landed := flight.aloft_land_le time now
        dsimp only
        split
        next => exact Nat.le_trans (ih consumer.2) (Nat.le_add_left _ _)
        next =>
          simp only [load, Option.map_some, Option.getD_some]
          exact Nat.add_le_add (Nat.le_trans landed few) (Nat.le_refl _)

/-- What becomes of the load when the background consumer goes on: it keeps what is still on its way
of the current flight, and no more than the queue asks for. -/
theorem load_settleFirst {dispatcher : Dispatcher} (running : dispatcher.running = true)
    (comesFirst : Flight -> Bool) :
    (dispatcher.settleFirst now time comesFirst).load <=
      ((dispatcher.current.map fun flight => flight.land time now).map Flight.aloft).getD 0 +
        asked dispatcher.queue := by
  unfold settleFirst
  rw [if_neg (by simp [running])]
  cases busy : dispatcher.current with
  | none =>
    rw [Option.map_none, Option.map_none, Option.getD_none, Nat.zero_add]
    exact load_consume busy
  | some flight =>
    dsimp only [Option.map_some, Option.getD_some]
    split
    next => exact Nat.le_trans (load_consume rfl) (Nat.le_add_left _ _)
    next => exact Nat.le_refl _

theorem load_settleFirst_le (dispatcher : Dispatcher) (comesFirst : Flight -> Bool) :
    (dispatcher.settleFirst now time comesFirst).load <= dispatcher.load := by
  cases running : dispatcher.running with
  | false => simp [settleFirst, running]
  | true =>
    refine Nat.le_trans (load_settleFirst running comesFirst) ?_
    refine Nat.add_le_add ?_ (Nat.le_refl _)
    cases dispatcher.current with
    | none => exact Nat.le_refl _
    | some flight => exact flight.aloft_land_le time now

theorem load_settleFirst_lt {dispatcher : Dispatcher} (comesFirst : Flight -> Bool)
    (isNext : dispatcher.nextDue = some due) (soon : due < reach time) :
    (dispatcher.settleFirst now time comesFirst).load < dispatcher.load := by
  unfold nextDue at isNext
  split at isNext
  next running =>
    obtain ⟨flight, busy, isNext⟩ := Option.bind_eq_some_iff.mp isNext
    refine Nat.lt_of_le_of_lt (load_settleFirst running comesFirst) ?_
    refine Nat.add_lt_add_of_lt_of_le ?_ (Nat.le_refl _)
    rw [busy]
    exact Flight.aloft_land_lt isNext soon
  next => cases isNext

end Dispatcher

namespace Station

/-- Nothing that happens at an instant adds to the load. -/
theorem load_wake (station : Station) (time : Int) (now : Moment) :
    ∃ comesFirst, (station.wake now time).load <=
      (station.dispatcher.settleFirst now time comesFirst).load +
        ((station.direct.map fun flight => flight.land time now).map Flight.aloft).getD 0 := by
  unfold wake
  dsimp only
  split
  next => exact ⟨fun _ => true, Nat.le_refl _⟩
  next delivered arrived =>
    refine ⟨fun flight => (station.direct.map (Flight.land time now)).all flight.isAheadOf, ?_⟩
    refine Nat.le_trans ?_ (Nat.le_add_right _ _)
    simp only [load, Option.map_none, Option.getD_none, Nat.add_zero]
    exact Dispatcher.load_settleFirst_le (Dispatcher.record _ delivered) _

theorem load_wake_lt {station : Station} (isNext : (agenda now).next station = some due)
    (soon : due < reach time) : (station.wake now time).load < station.load := by
  obtain ⟨comesFirst, bounded⟩ := load_wake station time now
  have members : some due ∈ [station.dispatcher.nextDue, station.direct.bind Flight.nextDue] :=
    mem_of_earliest isNext
  refine Nat.lt_of_le_of_lt bounded ?_
  cases List.mem_cons.mp members with
  | inl queued =>
    have lower := @Dispatcher.load_settleFirst_lt time due now _ comesFirst queued.symm soon
    refine Nat.add_lt_add_of_lt_of_le lower ?_
    cases station.direct with
    | none => exact Nat.le_refl _
    | some flight => exact flight.aloft_land_le time now
  | inr direct =>
    obtain ⟨flight, isDirect, isNext⟩ := Option.bind_eq_some_iff.mp
      (List.mem_singleton.mp direct).symm
    refine Nat.add_lt_add_of_le_of_lt (station.dispatcher.load_settleFirst_le comesFirst) ?_
    rw [isDirect]
    exact Flight.aloft_land_lt isNext soon

/-- A wait ends in the state that is waited for, or because nothing is due any more, or at its
limit. What every wake keeps still holds then. -/
theorem waitFor_spec {station : Station} {reached : Station -> Bool} {limit : Option Int}
    (keeps : Station -> Prop)
    (wakes : ∀ station time, keeps station -> reached station = false ->
      keeps (station.wake now time))
    (holds : keeps station) :
    ∃ time last, station.waitFor now reached limit = { last with time } ∧ keeps last ∧
      (agenda now).Ended reached limit time last := by
  have lowers : ∀ time station due, (agenda now).next station = some due ->
      (station.wake now (max time due)).load < station.load := by
    intro time station due isNext
    exact load_wake_lt isNext (Int.lt_of_le_of_lt (Int.le_max_right time due) (lt_reach _))
  have ends := @Agenda.runUntil_spec _ (agenda now) reached limit load keeps
    (fun time station due holds away isNext =>
      ⟨wakes station _ holds away, lowers time station due isNext⟩)
    (station.load + 1) station.time station (Nat.lt_succ_self _) holds
  exact ⟨_, _, rfl, ends⟩

end Station

end SensorAlerting.Delivery
