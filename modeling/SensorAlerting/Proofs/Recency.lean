import SensorAlerting.Proofs.Delivery.Isolation
import SensorAlerting.Proofs.Delivery.Queueing
import SensorAlerting.Snapshot.Memory

set_option autoImplicit false

/-!
What is kept of the latest deliveries and of the latest events, and what of it a query gets. Both are
the end of a list of all that was ever recorded, cut by a capacity. A query cuts it once more by a
limit, except for a limit of nought, which asks for nothing and gets everything.
-/

namespace SensorAlerting

section Newest

variable {Item : Type} {items : List Item}

theorem newest_natCast (limit : Nat) (items : List Item) :
    newest limit items = if limit = 0 then items else lastItems limit items := by
  cases limit with
  | zero => simp [newest]
  | succ less =>
    have positive : (0 : Int) < ((less + 1 : Nat) : Int) := by omega
    simp only [newest, positive, if_true, Int.toNat_natCast, Nat.add_one_ne_zero, if_false]

theorem lastItems_zero (items : List Item) : lastItems 0 items = [] := by simp [lastItems]

@[simp]
theorem keepNewest_nil (bound : Bound) : keepNewest bound ([] : List Item) = [] := by
  cases bound <;> simp [keepNewest, lastItems]

theorem lastItems_eq_nil {count : Nat} : lastItems count items = [] ↔ count = 0 ∨ items = [] := by
  rw [<- List.length_eq_zero_iff, length_lastItems, <- List.length_eq_zero_iff]
  omega

theorem newest_lastItems (limit capacity : Nat) (items : List Item) :
    newest limit (lastItems capacity items) =
      if limit = 0 then lastItems capacity items else lastItems (min limit capacity) items := by
  rw [newest_natCast, lastItems_lastItems]

/-- A limit and a capacity go together unless something is kept and nothing of it asked for. -/
theorem newest_lastItems_iff {limit capacity : Nat} :
    newest limit (lastItems capacity items) = lastItems (min limit capacity) items ↔
      limit ≠ 0 ∨ capacity = 0 ∨ items = [] := by
  rw [newest_lastItems]
  by_cases none : limit = 0
  next =>
    rw [if_pos none, none, Nat.zero_min, lastItems_zero, lastItems_eq_nil]
    simp
  next => simp [none]

theorem newest_exact {kept : List Item} {limit capacity : Nat}
    (isEnd : kept = lastItems capacity items) :
    (newest limit kept = lastItems (min limit capacity) items ↔
        limit ≠ 0 ∨ capacity = 0 ∨ items = []) ∧
      (limit = 0 -> newest limit kept = lastItems capacity items) := by
  rw [isEnd]
  exact ⟨newest_lastItems_iff, fun none => by rw [newest_lastItems, if_pos none]⟩

end Newest

namespace Delivery

open SensorAlerting.Time

namespace Traffic

def recorded (traffic : Traffic) : Act -> List Delivered
  | .finish place => (traffic.direct[place]?.bind Flight.delivered?).getD []
  | .finishCurrent => (traffic.dispatcher.current.bind Flight.delivered?).getD []
  | _ => []

def record (traffic : Traffic) (before : List Delivered) : List Act -> List Delivered
  | [] => before
  | .clearDeliveries :: rest => (traffic.step .clearDeliveries).record [] rest
  | act :: rest => (traffic.step act).record (before ++ traffic.recorded act) rest

variable {traffic : Traffic}

theorem arrive_deliveries {dispatcher : Dispatcher} {flight? : Option Flight}
    {before : List Delivered}
    (kept : dispatcher.deliveries = keepNewest dispatcher.settings.history before) :
    ((flight?.bind (arrive dispatcher)).getD dispatcher).deliveries =
      keepNewest dispatcher.settings.history
        (before ++ (flight?.bind Flight.delivered?).getD []) := by
  cases flight? with
  | none => simpa using kept
  | some flight =>
    cases arrived : flight.delivered? with
    | none => simpa [arrive, arrived] using kept
    | some delivered => simp [arrive, arrived, Dispatcher.record, kept, keepNewest_grown]

theorem deliveries_begun {call : Call} {dispatcher after : Dispatcher} {begun : Begun}
    (begins : call.begin dispatcher = (after, begun)) :
    after.deliveries = dispatcher.deliveries := by
  have framed := dispatcher.begin_frame call.now call.start call.alert call.channels
  exact (congrArg (·.1.deliveries) begins).symm.trans framed.1

theorem deliveries_beginDirect (call : Call) :
    (traffic.beginDirect call).dispatcher.deliveries = traffic.dispatcher.deliveries := by
  unfold beginDirect
  split
  next begins => exact deliveries_begun begins
  next begins => exact deliveries_begun begins

theorem deliveries_beginQueued (call : Call) :
    (traffic.beginQueued call).dispatcher.deliveries = traffic.dispatcher.deliveries := by
  unfold beginQueued
  dsimp only
  split
  next begins =>
    have same := deliveries_begun begins
    exact same
  next begins =>
    have same := deliveries_begun begins
    exact same

theorem kept_of_same {before : List Delivered} {act : Act} {after : Dispatcher}
    (kept : traffic.dispatcher.deliveries =
      keepNewest traffic.dispatcher.settings.history before)
    (nothing : traffic.recorded act = [])
    (same : after.deliveries = traffic.dispatcher.deliveries) :
    after.deliveries =
      keepNewest traffic.dispatcher.settings.history (before ++ traffic.recorded act) := by
  rw [nothing, List.append_nil, same, kept]

theorem deliveries_step {before : List Delivered} {act : Act} (stays : act ≠ .clearDeliveries)
    (kept : traffic.dispatcher.deliveries =
      keepNewest traffic.dispatcher.settings.history before) :
    (traffic.step act).dispatcher.deliveries =
      keepNewest traffic.dispatcher.settings.history (before ++ traffic.recorded act) := by
  cases act with
  | finish place =>
    have arrived := @arrive_deliveries traffic.dispatcher traffic.direct[place]? before kept
    simp only [step, perform, recorded]
    rw [<- arrived]
    cases traffic.direct[place]?.bind (arrive traffic.dispatcher) <;> rfl
  | finishCurrent =>
    -- The results are recorded after the delivery was taken off, which changes nothing of them.
    have arrived := @arrive_deliveries { traffic.dispatcher with current := none }
      traffic.dispatcher.current before kept
    simp only [step, perform, recorded]
    rw [<- arrived]
    cases traffic.dispatcher.current.bind
      (arrive { traffic.dispatcher with current := none }) <;> rfl
  | clearDeliveries => exact absurd rfl stays
  | notify call => exact kept_of_same kept rfl (deliveries_beginDirect call)
  | take now start =>
    apply kept_of_same kept rfl
    cases calls : traffic.call? (.take now start) with
    | none => simp [step, perform, calls]
    | some call => simpa [step, perform, calls] using deliveries_beginQueued call
  | submit submission =>
    apply kept_of_same kept rfl
    simp only [step, perform, Dispatcher.submit]
    split
    next => split <;> rfl
    next => rfl
  | _ => exact kept_of_same kept rfl rfl

theorem history_step (act : Act) :
    (traffic.step act).dispatcher.settings.history = traffic.dispatcher.settings.history :=
  congrArg DispatcherSettings.history (traffic.serves_step act).settings

theorem deliveries_run {before : List Delivered} (acts : List Act)
    (kept : traffic.dispatcher.deliveries =
      keepNewest traffic.dispatcher.settings.history before) :
    (traffic.run acts).dispatcher.deliveries =
      keepNewest traffic.dispatcher.settings.history (traffic.record before acts) := by
  induction acts generalizing traffic before with
  | nil => exact kept
  | cons act rest ih =>
    rw [<- history_step act]
    by_cases clears : act = .clearDeliveries
    next =>
      subst clears
      apply @ih (traffic.step .clearDeliveries) []
      exact (keepNewest_nil _).symm
    next =>
      rw [record.eq_3 traffic before act rest clears]
      apply @ih (traffic.step act)
      rw [history_step]
      exact deliveries_step clears kept

theorem start_kept (settings : DispatcherSettings) (channels : List (String × Channel)) :
    (start settings channels).dispatcher.settings = settings ∧
      (start settings channels).dispatcher.deliveries = [] := by
  have all : ∀ dispatcher : Dispatcher,
      let filled := channels.foldl (fun dispatcher entry => dispatcher.addChannel entry.1 entry.2)
        dispatcher
      filled.settings = dispatcher.settings ∧ filled.deliveries = dispatcher.deliveries := by
    induction channels with
    | nil => exact fun dispatcher => ⟨rfl, rfl⟩
    | cons entry rest ih => exact fun dispatcher => ih (dispatcher.addChannel entry.1 entry.2)
  exact all _

end Traffic

end Delivery

namespace Snapshot.Memory

def saveAll (memory : Memory) (events : List Event) : Memory :=
  events.foldl (fun memory event => (memory.save event).1) memory

def eventsAmong (sensorType : String) (events : List Event) : List Event :=
  events.filter fun event => event.sensorType == sensorType

theorem save_spec {memory : Memory} {bound : Bound} (stated : memory.limit.asBound = .ok bound)
    (event : Event) (sensorType : String) :
    (memory.save event).1.limit = memory.limit ∧
      (memory.save event).1.eventsOf sensorType =
        if event.sensorType = sensorType then
          keepNewest bound (memory.eventsOf sensorType ++ [event])
        else memory.eventsOf sensorType := by
  have bounded : (memory.keepLatest event).limit.asBound = .ok bound := stated
  simp only [save, bounded, keepRecent]
  refine ⟨rfl, ?_⟩
  by_cases same : event.sensorType = sensorType
  next => simp [eventsOf, same, keepLatest]
  next => simp [eventsOf, same, keepLatest, Entries.get?_put_other _ _ same]

theorem eventsOf_saveAll {memory : Memory} {bound : Bound} {sensorType : String}
    {before : List Event} (stated : memory.limit.asBound = .ok bound)
    (kept : memory.eventsOf sensorType = keepNewest bound before) (events : List Event) :
    (memory.saveAll events).eventsOf sensorType =
      keepNewest bound (before ++ eventsAmong sensorType events) := by
  induction events generalizing memory before with
  | nil => simpa [saveAll, eventsAmong] using kept
  | cons event rest ih =>
    obtain ⟨sameLimit, saved⟩ := save_spec stated event sensorType
    have still : (memory.save event).1.limit.asBound = .ok bound := by rw [sameLimit, stated]
    by_cases same : event.sensorType = sensorType
    next =>
      rw [if_pos same, kept, keepNewest_grown] at saved
      have listed : before ++ eventsAmong sensorType (event :: rest) =
          before ++ [event] ++ eventsAmong sensorType rest := by
        simp [eventsAmong, same]
      rw [listed]
      exact ih still saved
    next =>
      rw [if_neg same, kept] at saved
      have listed : eventsAmong sensorType (event :: rest) = eventsAmong sensorType rest := by
        simp [eventsAmong, same]
      rw [listed]
      exact ih still saved

end Snapshot.Memory

open Delivery Snapshot

/-- A query for the latest deliveries, or for the latest events of a type, gets the last of all that
were recorded, as many as it asks for and the capacity allows, unless it asks for none of some that
are kept: then it gets all of these. -/
theorem recent_exact_iff (limit size : Nat) :
    (∀ settings : DispatcherSettings, settings.history = some size ->
      ∀ (channels : List (String × Channel)) (acts : List Act),
        let all := (Traffic.start settings channels).record [] acts
        let found := ((Traffic.start settings channels).run acts).dispatcher.recent limit
        (found = lastItems (min limit size) all ↔ limit ≠ 0 ∨ size = 0 ∨ all = []) ∧
          (limit = 0 -> found = lastItems size all)) ∧
      ∀ stated : Value, stated.asBound = .ok (some size) ->
        ∀ (events : List Event) (sensorType : String),
          let all := Memory.eventsAmong sensorType events
          let found := ((Memory.empty stated).saveAll events).getRecent sensorType limit
          (found = lastItems (min limit size) all ↔ limit ≠ 0 ∨ size = 0 ∨ all = []) ∧
            (limit = 0 -> found = lastItems size all) := by
  constructor
  next =>
    intro settings bounded channels acts all found
    obtain ⟨sameSettings, noDeliveries⟩ := Traffic.start_kept settings channels
    have kept : ((Traffic.start settings channels).run acts).dispatcher.deliveries =
        lastItems size all := by
      have run := @Traffic.deliveries_run (Traffic.start settings channels) [] acts
      rw [sameSettings, bounded, keepNewest_nil] at run
      exact run noDeliveries
    exact newest_exact kept
  next =>
    intro stated bounded events sensorType all found
    have kept : ((Memory.empty stated).saveAll events).eventsOf sensorType =
        lastItems size all :=
      @Memory.eventsOf_saveAll (Memory.empty stated) _ sensorType [] bounded
        (keepNewest_nil _).symm events
    exact newest_exact kept

def twoResults : DispatcherSettings := { tenSeconds with history := some 2 }

def threeResults : List Act :=
  [.notify { now := Time.universal 0, start := ⟨0, 0⟩, alert := gasInHall
             channels := .list [.text "siren", .text "bell", .text "horn"] },
    .land 0 0 (Time.universal 0), .finish 0]

def seenIn (sensorType deviceId : String) : Event :=
  { deviceId, sensorType, location := "hall", timestamp := Time.universal 0, readings := [] }

def threeLights : List Event :=
  [seenIn "lux" "a", seenIn "lux" "b", seenIn "pir" "c", seenIn "lux" "d"]

theorem recent_exact_iff_two :
    let traffic := Traffic.start twoResults [("siren", .plain "siren" .instant)]
    let results := traffic.record [] threeResults
    let recent := (traffic.run threeResults).dispatcher.recent
    let lights := ((Memory.empty (.int 2)).saveAll threeLights).getRecent "lux"
    results.map Delivered.shown = [("siren", .sent, none),
        ("bell", .skipped, some "unknown_channel"), ("horn", .skipped, some "unknown_channel")] ∧
      recent 1 = lastItems 1 results ∧ recent 0 ≠ lastItems 0 results ∧
      recent 0 = lastItems 2 results ∧
      lights 3 = [seenIn "lux" "b", seenIn "lux" "d"] ∧ lights 0 ≠ [] ∧
      lights 0 = [seenIn "lux" "b", seenIn "lux" "d"] := by
  intro traffic results recent lights
  have shown : results.map Delivered.shown = [("siren", .sent, none),
      ("bell", .skipped, some "unknown_channel"), ("horn", .skipped, some "unknown_channel")] := by
    decide +kernel
  have someResults : results ≠ [] := by
    intro nothing
    rw [nothing] at shown
    cases shown
  have three : (Memory.eventsAmong "lux" threeLights).length = 3 := by rfl
  obtain ⟨one, -⟩ := (recent_exact_iff 1 2).1 twoResults rfl
    [("siren", .plain "siren" .instant)] threeResults
  obtain ⟨noResult, kept⟩ := (recent_exact_iff 0 2).1 twoResults rfl
    [("siren", .plain "siren" .instant)] threeResults
  obtain ⟨allLights, -⟩ := (recent_exact_iff 3 2).2 (.int 2) rfl threeLights "lux"
  obtain ⟨noLight, lit⟩ := (recent_exact_iff 0 2).2 (.int 2) rfl threeLights "lux"
  refine ⟨shown, one.mpr (.inl (by decide)), ?_, kept rfl, allLights.mpr (.inl (by decide)), ?_,
    lit rfl⟩
  next =>
    intro nothing
    obtain absurdity | absurdity | absurdity := noResult.mp nothing
    next => exact absurdity rfl
    next => cases absurdity
    next => exact someResults absurdity
  next =>
    intro dark
    obtain absurdity | absurdity | absurdity := noLight.mp dark
    next => exact absurdity rfl
    next => cases absurdity
    next =>
      rw [absurdity] at three
      cases three

/-- A query for no events at all gets the one that was saved. -/
theorem recent_event_for_none :
    let events := [seenIn "lux" "a"]
    let memory := (Memory.empty (.int 2)).saveAll events
    memory.getRecent "lux" 0 = events ∧ lastItems (min 0 2) events = [] := by
  exact ⟨rfl, rfl⟩

end SensorAlerting
