import SensorAlerting.Proofs.Json.Forms
import SensorAlerting.Proofs.Snapshot.Ranking
import SensorAlerting.Proofs.Time.Iso
import SensorAlerting.Snapshot.Store

set_option autoImplicit false

/-!
What a database holds after events were saved to it one after the other: for each sensor type the
newest of all the payloads ever saved, in whatever order their events came, and for each device the
payload of its last event. The text of a payload tells the time stamp in it, so that no text is
saved with two scores.
-/

namespace SensorAlerting.Snapshot

open SensorAlerting.Time

/-- What holds of every event: its time stamp is a moment, and no reading has the name of another
one. -/
structure IsSound (event : Event) : Prop where
  timestamp : event.timestamp.IsSound
  names : Entries.Distinct event.readings

section Payloads

variable {event other : Event}

def payloadForm? (event : Event) : Option Value :=
  (Json.form Json.deepest event.toPayload).toOption.map Json.settled

theorem read_contentOf {content : String} (wrote : Store.contentOf event = .ok content) :
    ∃ value, payloadForm? event = some value ∧ Json.read content = .ok value := by
  obtain ⟨written, formed, rfl⟩ := Json.exists_form_of_writeForm wrote
  exact ⟨Json.settled written, by rw [payloadForm?, formed]; rfl, Json.read_writeForm formed⟩

theorem distinct_payloadFields (sound : IsSound event) :
    Entries.Distinct event.payloadFields :=
  (((sound.names.put _ _).put _ _).put _ _).put _ _

theorem timestamp_of_payloadForm? (sound : IsSound event) {value : Value}
    (formed : payloadForm? event = some value) :
    value.field? "timestamp" = some (.text event.timestamp.isoText) := by
  rw [payloadForm?, Option.map_eq_some_iff] at formed
  obtain ⟨written, found, rfl⟩ := formed
  obtain ⟨fields, fieldsFormed, rfl⟩ := ok_of_map (ok_of_toOption found)
  obtain ⟨entries, same, each⟩ := Json.settled_mapping (distinct_payloadFields sound) fieldsFormed
  have stamp : Entries.get? event.payloadFields "timestamp" =
      some (.text event.timestamp.isoText) := Entries.get?_put_same _ _ _
  rw [same]
  refine (each "timestamp").trans ?_
  rw [stamp]
  rfl

theorem timestamp_inj (sound : IsSound event) (soundToo : IsSound other) {content : String}
    (wrote : Store.contentOf event = .ok content) (wroteToo : Store.contentOf other = .ok content) :
    event.timestamp = other.timestamp := by
  obtain ⟨value, formed, read⟩ := read_contentOf wrote
  obtain ⟨valueToo, formedToo, readToo⟩ := read_contentOf wroteToo
  obtain rfl : value = valueToo := Except.ok.inj (read.symm.trans readToo)
  have stamp := timestamp_of_payloadForm? sound formed
  rw [timestamp_of_payloadForm? soundToo formedToo] at stamp
  exact (Moment.isoText_inj soundToo.timestamp sound.timestamp
    (Value.text.inj (Option.some.inj stamp))).symm

end Payloads

section Items

def itemOf? (event : Event) : Option Ranked :=
  match Store.contentOf event, Store.scoreOf event with
  | .ok member, .ok score => some { member, score }
  | _, _ => none

def itemsOf (sensorType : String) (events : List Event) : List Ranked :=
  (events.filter fun event => event.sensorType == sensorType).filterMap itemOf?

theorem itemOf?_eq_some {event : Event} {item : Ranked} : itemOf? event = some item ↔
    Store.contentOf event = .ok item.member ∧ Store.scoreOf event = .ok item.score := by
  unfold itemOf?
  split
  next member score wrote told =>
    cases item
    simp [wrote, told]
  next other =>
    simp only [reduceCtorEq, false_iff, not_and]
    exact fun wrote told => other _ _ wrote told

theorem itemOf?_inj {event other : Event} (sound : IsSound event) (soundToo : IsSound other)
    {left right : Ranked} (first : itemOf? event = some left) (second : itemOf? other = some right)
    (same : left.member = right.member) : left = right := by
  obtain ⟨wrote, told⟩ := itemOf?_eq_some.mp first
  obtain ⟨wroteToo, toldToo⟩ := itemOf?_eq_some.mp second
  rw [same] at wrote
  have stamp := timestamp_inj sound soundToo wrote wroteToo
  rw [Store.scoreOf, stamp] at told
  have score := Except.ok.inj (told.symm.trans toldToo)
  cases left
  cases right
  cases same
  cases score
  rfl

theorem consistent_itemsOf (sensorType : String) {events : List Event}
    (sound : ∀ event ∈ events, IsSound event) : Consistent (itemsOf sensorType events) := by
  intro left first right second same
  obtain ⟨event, member, indexed⟩ := List.mem_filterMap.mp first
  obtain ⟨other, memberToo, indexedToo⟩ := List.mem_filterMap.mp second
  exact itemOf?_inj (sound event (List.mem_of_mem_filter member))
    (sound other (List.mem_of_mem_filter memberToo)) indexed indexedToo same

end Items

section Saves

inductive Saves (start : Store) : List Event -> Store -> Prop where
  | none : Saves start [] start
  | save {events : List Event} {store next : Store} {event : Event} {commands : List Command}
      (before : Saves start events store) (saved : store.save event = .ok (next, commands))
      (written : commands ≠ []) : Saves start (events ++ [event]) next

def lastOf? (deviceId : String) (events : List Event) : Option Event :=
  (events.filter fun event => event.deviceId == deviceId).getLast?

structure Holds (limit : Int) (events : List Event) (store : Store) : Prop where
  connected : store.connected = true
  limited : store.recentLimit = limit
  written : ∀ event ∈ events, (itemOf? event).isSome = true
  database : ∃ database, store.database = some database ∧
    (∀ sensorType, database.rankedOf (Store.recentKey sensorType) =
      lastItems limit.toNat (ranking (itemsOf sensorType events))) ∧
    ∀ deviceId, Entries.get? database.texts (Store.latestKey deviceId) =
      (lastOf? deviceId events).bind fun event => (Store.contentOf event).toOption

theorem holds_create {settings : Settings.Storage} :
    Holds settings.recentLimit [] (Store.create settings (some Database.empty)) where
  connected := rfl
  limited := rfl
  written := List.forall_mem_nil _
  database := by
    refine ⟨Database.empty, rfl, fun sensorType => ?_, fun deviceId => rfl⟩
    simp [Database.rankedOf, Database.empty, ranking, itemsOf, distinct, lastItems]

section Commands

theorem rankedOf_put (database : Database) (key other : String) (items : List Ranked) :
    Database.rankedOf { database with ranked := Entries.put database.ranked key items } other =
      if key = other then items else database.rankedOf other := by
  split
  next same =>
    subst same
    simp [Database.rankedOf]
  next different => simp [Database.rankedOf, Entries.get?_put_other _ _ different]

theorem rankedOf_executeAll (database : Database) (textKey content : String) (seconds : Int)
    (key : String) (item : Ranked) (first last : Int) (other : String) :
    (database.executeAll [.set textKey content seconds, .addRanked key item,
      .removeRanks key first last]).rankedOf other =
      if key = other then
        Database.removeFrom first last (Database.addTo item (database.rankedOf key))
      else database.rankedOf other := by
  have added := rankedOf_put (database.execute (.set textKey content seconds)) key
  refine (rankedOf_put _ key other _).trans ?_
  split
  next => exact congrArg _ ((added key _).trans (if_pos rfl))
  next different => exact (added other _).trans (if_neg different)

theorem recentKey_inj {left right : String} (same : Store.recentKey left = Store.recentKey right) :
    left = right := (String.append_right_inj _).mp same

theorem latestKey_inj {left right : String} (same : Store.latestKey left = Store.latestKey right) :
    left = right := (String.append_right_inj _).mp ((String.append_left_inj _).mp same)

theorem exists_of_save {store next : Store} {event : Event} {commands : List Command}
    (saved : store.save event = .ok (next, commands)) (written : commands ≠ []) :
    ∃ database item, store.database = some database ∧ itemOf? event = some item ∧
      next = { store with database := some (database.executeAll
        [.set (Store.latestKey event.deviceId) item.member store.lifetimeSeconds,
          .addRanked (Store.recentKey event.sensorType) item,
          .removeRanks (Store.recentKey event.sensorType) 0 (-(store.recentLimit + 1))]) } := by
  unfold Store.save at saved
  split at saved
  next database isDatabase =>
    split at saved
    next =>
      cases saved
      exact absurd rfl written
    next =>
      obtain ⟨found, made, outcome⟩ := ok_of_bind saved
      split at outcome
      next =>
        cases outcome
        exact absurd rfl written
      next =>
        cases outcome
        obtain ⟨content, wrote, rest⟩ := ok_of_bind made
        obtain ⟨score, told, whole⟩ := ok_of_bind rest
        cases whole
        exact ⟨database, { member := content, score }, isDatabase,
          itemOf?_eq_some.mpr ⟨ok_of_mapError wrote, ok_of_mapError told⟩, rfl⟩
  next =>
    cases saved
    exact absurd rfl written

end Commands

theorem itemsOf_snoc {events : List Event} {event : Event} {item : Ranked}
    (indexed : itemOf? event = some item) (sensorType : String) :
    itemsOf sensorType (events ++ [event]) =
      if event.sensorType = sensorType then itemsOf sensorType events ++ [item]
      else itemsOf sensorType events := by
  split
  next same => simp [itemsOf, same, indexed]
  next other => simp [itemsOf, other]

theorem lastOf?_snoc (deviceId : String) (events : List Event) (event : Event) :
    lastOf? deviceId (events ++ [event]) =
      if event.deviceId = deviceId then some event else lastOf? deviceId events := by
  split
  next same => simp [lastOf?, same]
  next other => simp [lastOf?, other]

variable {limit : Int} {events : List Event}

theorem Holds.save {store next : Store} {event : Event} {commands : List Command}
    (notNegative : 0 <= limit) (holds : Holds limit events store)
    (sound : ∀ other ∈ events ++ [event], IsSound other)
    (saved : store.save event = .ok (next, commands)) (written : commands ≠ []) :
    Holds limit (events ++ [event]) next := by
  obtain ⟨database, item, isDatabase, indexed, rfl⟩ := exists_of_save saved written
  obtain ⟨found, same, index, latest⟩ := holds.database
  obtain rfl : database = found := Option.some.inj (isDatabase.symm.trans same)
  refine ⟨holds.connected, holds.limited, ?_, _, rfl, fun sensorType => ?_, fun deviceId => ?_⟩
  next =>
    refine List.forall_mem_append.mpr ⟨holds.written, List.forall_mem_singleton.mpr ?_⟩
    rw [indexed]
    rfl
  next =>
    have consistent := consistent_itemsOf sensorType sound
    rw [itemsOf_snoc indexed] at consistent ⊢
    rw [rankedOf_executeAll, holds.limited, index, removeFrom_start notNegative]
    split
    next sameKey =>
      obtain same := recentKey_inj sameKey
      rw [if_pos same] at consistent ⊢
      rw [same, lastItems_ranking_snoc _ consistent]
    next otherKey =>
      have other : event.sensorType ≠ sensorType := fun same => otherKey (congrArg _ same)
      rw [if_neg other, index]
  next =>
    rw [lastOf?_snoc]
    split
    next same =>
      rw [<- same]
      refine (Entries.get?_put_same _ _ _).trans ?_
      rw [Option.bind_some, (itemOf?_eq_some.mp indexed).1]
      rfl
    next other =>
      exact (Entries.get?_put_other _ _ fun sameKey => other (latestKey_inj sameKey)).trans
        (latest deviceId)

theorem Saves.holds {settings : Settings.Storage} {store : Store}
    (notNegative : 0 <= settings.recentLimit) (sound : ∀ event ∈ events, IsSound event)
    (saved : Saves (Store.create settings (some Database.empty)) events store) :
    Holds settings.recentLimit events store := by
  induction saved with
  | none => exact holds_create
  | save before saved written ih =>
    exact (ih fun event member => sound event (List.mem_append_left _ member)).save notNegative
      sound saved written

theorem Holds.latest {store : Store} (holds : Holds limit events store) (deviceId : String) :
    store.latest deviceId = .ok ((lastOf? deviceId events).bind payloadForm?) := by
  obtain ⟨database, isDatabase, -, latest⟩ := holds.database
  simp only [Store.latest, Store.client, isDatabase, holds.connected, if_true, Except.map, latest]
  cases last : lastOf? deviceId events with
  | none => rfl
  | some event =>
    have member : event ∈ events := List.mem_of_mem_filter (List.mem_of_getLast? last)
    obtain ⟨item, indexed⟩ := Option.isSome_iff_exists.mp (holds.written event member)
    have wrote := (itemOf?_eq_some.mp indexed).1
    obtain ⟨value, formed, read⟩ := read_contentOf wrote
    have filled : item.member.isEmpty = false := by
      refine Bool.eq_false_iff.mpr fun empty => ?_
      rw [String.isEmpty_iff.mp empty] at read
      cases read
    simp only [Option.bind_some, wrote, formed, Except.toOption, filled, Bool.false_eq_true,
      if_false, Json.read?, read]

end Saves

/-- After events were saved in any order, each as often as it came, every index has exactly the last
of all payloads of its sensor type, in the order of time and text and each of them once. What is
known of a device is the payload of its last event. -/
theorem newest_of_saves {settings : Settings.Storage} {events : List Event} {store : Store}
    (positive : 1 <= settings.recentLimit) (sound : ∀ event ∈ events, IsSound event)
    (saved : Saves (Store.create settings (some Database.empty)) events store) :
    (∀ event ∈ events, (itemOf? event).isSome = true) ∧
    (∃ database, store.database = some database ∧ ∀ sensorType,
      database.rankedOf (Store.recentKey sensorType) =
        lastItems settings.recentLimit.toNat (ranking (itemsOf sensorType events)) ∧
      ((database.rankedOf (Store.recentKey sensorType)).map Ranked.member).Nodup) ∧
    ∀ deviceId, store.latest deviceId = .ok ((lastOf? deviceId events).bind payloadForm?) := by
  have holds := saved.holds (by omega) sound
  obtain ⟨database, isDatabase, index, -⟩ := holds.database
  refine ⟨holds.written, ⟨database, isDatabase, fun sensorType => ⟨index sensorType, ?_⟩⟩,
    holds.latest⟩
  rw [index]
  exact nodup_members (consistent_itemsOf sensorType sound) _

section Arrivals

def motionAt (deviceId : String) (seconds : Int) : Event where
  deviceId
  sensorType := "motion"
  location := deviceId
  timestamp := universal (seconds * second)
  readings := [("motion", .bool true)]

def arrivals : List Event :=
  [motionAt "lamp" 20, motionAt "door" 10, motionAt "hall" 30, motionAt "door" 10,
    motionAt "attic" 30]

def twoNewest : Settings.Storage where
  enabled := true
  url := "redis://localhost:6379"
  database := 0
  maxConnections := 10
  socketTimeout := 10
  stream := "sensor-events"
  consumerGroup := "analytics-workers"
  consumerName := none
  readCount := 10
  blockMillis := 5000
  latestSeconds := 3600
  recentLimit := 2

theorem isSound_motionAt {seconds : Int} (shown : inCalendar (seconds * second) = true)
    (deviceId : String) : IsSound (motionAt deviceId seconds) where
  timestamp :=
    { wall := shown
      offset := by rintro offset ⟨⟩; decide }
  names := List.nodup_singleton _

theorem isSound_arrivals : ∀ event ∈ arrivals, IsSound event := by
  have sound := fun seconds shown deviceId => @isSound_motionAt seconds shown deviceId
  simp [arrivals, sound _ (by decide : inCalendar (20 * second) = true),
    sound _ (by decide : inCalendar (10 * second) = true),
    sound _ (by decide : inCalendar (30 * second) = true)]

/-- The event at ten seconds is cut off, saved again, and cut off again. -/
theorem newest_of_saves_arrivals :
    ∃ store, Saves (Store.create twoNewest (some Database.empty)) arrivals store ∧
      1 <= twoNewest.recentLimit ∧ (∀ event ∈ arrivals, IsSound event) ∧
      (∃ database, store.database = some database ∧
        database.rankedOf (Store.recentKey "motion") =
          lastItems 2 (ranking (itemsOf "motion" arrivals)) ∧
        (database.rankedOf (Store.recentKey "motion")).map Ranked.score = [30000, 30000]) ∧
      store.latest "door" = .ok (payloadForm? (motionAt "door" 10)) := by
  have opened : Saves (Store.create twoNewest (some Database.empty)) [] _ := .none
  have lamp : Saves _ [motionAt "lamp" 20] _ := opened.save rfl nofun
  have door : Saves _ [motionAt "lamp" 20, motionAt "door" 10] _ := lamp.save rfl nofun
  have hall : Saves _ [motionAt "lamp" 20, motionAt "door" 10, motionAt "hall" 30] _ :=
    door.save rfl nofun
  have again : Saves _ [motionAt "lamp" 20, motionAt "door" 10, motionAt "hall" 30,
    motionAt "door" 10] _ := hall.save rfl nofun
  have attic : Saves _ arrivals _ := again.save rfl nofun
  obtain ⟨-, ⟨database, isDatabase, index⟩, latest⟩ :=
    newest_of_saves (by decide) isSound_arrivals attic
  cases isDatabase
  refine ⟨_, attic, by decide, isSound_arrivals, ⟨_, rfl, (index "motion").1, ?_⟩, latest "door"⟩
  decide +kernel

end Arrivals

end SensorAlerting.Snapshot
