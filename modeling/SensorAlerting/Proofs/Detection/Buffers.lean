import SensorAlerting.Proofs.Detection.Patterns

set_option autoImplicit false

/-!
The buffers of all locations, in runs in which events may fail halfway. Each buffer stays in the order
of arrival and within its bound whatever happens; that every event drops what is too old from the
front of all buffers is then enough to leave nothing old behind, and no buffer without an event.
-/

namespace SensorAlerting.Detection.CorrelationTracker

open SensorAlerting.Number SensorAlerting.Time

/-- A buffer of some events at its location, none of them after an instant. -/
structure Orderly (size : Nat) (since : Int) (log : List Arrival) (buffer : List BufferedEvent) :
    Prop where
  few : buffer.length <= size
  ordered : buffer.Pairwise fun earlier later => earlier.arrival.instant <= later.arrival.instant
  past : ∀ entry ∈ buffer, entry.arrival.instant <= since
  origin : ∀ entry ∈ buffer, ∃ arrival ∈ log, arrival.now = entry.arrival

namespace Orderly

variable {size : Nat} {since : Int} {log : List Arrival} {buffer : List BufferedEvent}

theorem empty (size : Nat) (since : Int) (log : List Arrival) : Orderly size since log [] where
  few := Nat.zero_le size
  ordered := .nil
  past := by simp
  origin := by simp

theorem later {next : Int} (orderly : Orderly size since log buffer) (onward : since <= next)
    (more : List Arrival) : Orderly size next (log ++ more) buffer where
  few := orderly.few
  ordered := orderly.ordered
  past entry member := Int.le_trans (orderly.past entry member) onward
  origin entry member := by
    obtain ⟨arrival, known, same⟩ := orderly.origin entry member
    exact ⟨arrival, List.mem_append_left more known, same⟩

theorem sublist {part : List BufferedEvent} (orderly : Orderly size since log buffer)
    (within : part.Sublist buffer) : Orderly size since log part where
  few := Nat.le_trans within.length_le orderly.few
  ordered := orderly.ordered.sublist within
  past entry member := orderly.past entry (within.subset member)
  origin entry member := orderly.origin entry (within.subset member)

theorem record {arrival : Arrival} {entry : BufferedEvent}
    (orderly : Orderly size since log buffer) (onward : since <= arrival.now.instant)
    (here : entry.arrival = arrival.now) :
    Orderly size arrival.now.instant (log ++ [arrival]) (lastItems size (buffer ++ [entry])) := by
  obtain ⟨-, ordered, past, origin⟩ := orderly.later onward [arrival]
  have within : (lastItems size (buffer ++ [entry])).Sublist (buffer ++ [entry]) :=
    List.drop_sublist _ _
  constructor
  next =>
    rw [length_lastItems]
    exact Nat.min_le_left _ _
  next =>
    -- Nothing in the buffer is from after the clock, which the new entry is from.
    refine (List.pairwise_append.mpr ⟨ordered, List.pairwise_singleton _ _, ?_⟩).sublist within
    intro earlier member last single
    rw [List.mem_singleton.mp single, here]
    exact past earlier member
  next =>
    intro other member
    cases List.mem_append.mp (within.subset member) with
    | inl older => exact past other older
    | inr last => rw [List.mem_singleton.mp last, here]
  next =>
    intro other member
    cases List.mem_append.mp (within.subset member) with
    | inl older => exact origin other older
    | inr last => exact ⟨arrival, by simp, by rw [List.mem_singleton.mp last, here]⟩

/-- Behind the first entry that is young enough there is none that is not. -/
theorem young {horizon : Int} {now : Moment} (orderly : Orderly size since log buffer) :
    ∀ entry ∈ buffer.dropWhile (isOld horizon now), now.since entry.arrival < horizon := by
  have ordered := orderly.ordered
  clear orderly
  induction buffer with
  | nil => simp
  | cons first rest ih =>
    obtain ⟨before, ordered⟩ := List.pairwise_cons.mp ordered
    by_cases old : isOld horizon now first = true
    next =>
      rw [List.dropWhile_cons_of_pos old]
      exact ih ordered
    next =>
      rw [List.dropWhile_cons_of_neg old]
      have firstYoung : now.instant - first.arrival.instant < horizon := by
        exact Int.not_le.mp fun late => old (decide_eq_true late)
      intro entry member
      cases List.mem_cons.mp member with
      | inl same =>
        rw [same]
        exact firstYoung
      | inr member =>
        have order := before entry member
        have younger : now.instant - entry.arrival.instant < horizon := by omega
        exact younger

end Orderly

structure Tidy (size : Nat) (since : Int) (logs : String -> List Arrival)
    (tracker : CorrelationTracker) : Prop where
  distinct : Entries.Distinct tracker.buffers
  orderly : ∀ location, Orderly size since (logs location) (tracker.bufferOf location)

/-- The buffers after an event, by how far it has come: it may not have reached the buffers at all,
have opened the one at its location, have entered it, or have gone on to drop what is old. -/
theorem buffers_process (tracker : CorrelationTracker) (arrival : Arrival) (serial : Nat) :
    let after := tracker.after (.process arrival serial)
    let opened := tracker.openBuffer arrival.event.location
    after.buffers = tracker.buffers ∨ after.buffers = opened.buffers ∨
      ∃ bound entry, tracker.settings.bufferSize.asBound = .ok bound ∧
        entry.arrival = arrival.now ∧
        (after.buffers = (opened.record bound arrival.event.location entry).buffers ∨
          after.buffers = (tracker.buffered bound arrival entry).buffers) := by
  dsimp only
  cases bounded : tracker.settings.bufferSize.asBound with
  | error misuse =>
    simp only [after, perform, process, bounded]
    exact .inl rfl
  | ok bound =>
    cases entered : entryOf tracker.settings arrival.now arrival.event arrival.related with
    | error fault =>
      simp only [after, perform, process, settings_openBuffer, bounded, entered]
      exact .inr (.inl rfl)
    | ok entry =>
      have here : entry.arrival = arrival.now := congrArg (·.arrival) (eq_entryAt entered)
      refine .inr (.inr ⟨bound, entry, rfl, here, ?_⟩)
      cases spanned : checkSpan (tracker.settings.window * 2) with
      | error fault =>
        simp only [after, perform, process, settings_openBuffer, settings_record, bounded, entered,
          spanned]
        exact .inl rfl
      | ok horizon =>
        rw [after, perform_eq_evaluate bounded entered spanned, evaluate]
        split <;> exact .inr rfl

namespace Tidy

variable {size : Nat} {since : Int} {logs : String -> List Arrival} {tracker : CorrelationTracker}

theorem congr {other : CorrelationTracker} (tidy : Tidy size since logs tracker)
    (same : other.buffers = tracker.buffers) : Tidy size since logs other where
  distinct := same ▸ tidy.distinct
  orderly location := by
    rw [bufferOf, same]
    exact tidy.orderly location

theorem opened (tidy : Tidy size since logs tracker) (location : String) :
    Tidy size since logs (tracker.openBuffer location) where
  distinct := tidy.distinct.put _ _
  orderly other := by
    rw [bufferOf_openBuffer]
    exact tidy.orderly other

theorem later (tidy : Tidy size since logs tracker) {arrival : Arrival}
    (onward : since <= arrival.now.instant) (serial : Nat) :
    Tidy size arrival.now.instant (fun location => logAfter location (logs location)
      (.process arrival serial)) tracker where
  distinct := tidy.distinct
  orderly location := by
    rw [logAfter_process]
    split
    next => exact (tidy.orderly location).later onward [arrival]
    next => simpa using (tidy.orderly location).later onward []

theorem recorded (tidy : Tidy size since logs tracker) {arrival : Arrival} {entry : BufferedEvent}
    (onward : since <= arrival.now.instant) (here : entry.arrival = arrival.now) (serial : Nat) :
    Tidy size arrival.now.instant
      (fun location => logAfter location (logs location) (.process arrival serial))
      ((tracker.openBuffer arrival.event.location).record (some size) arrival.event.location
        entry) where
  distinct := (tidy.distinct.put _ _).put _ _
  orderly location := by
    rw [bufferOf_record, bufferOf_openBuffer]
    by_cases same : arrival.event.location = location
    next =>
      rw [if_pos same, logAfter_process, if_pos same]
      exact (tidy.orderly location).record onward here
    next =>
      rw [if_neg same]
      exact (tidy.later onward serial).orderly location

theorem purged (tidy : Tidy size since logs tracker) (now : Moment) (horizon : Int) :
    Tidy size since logs (tracker.purge now horizon) where
  distinct := (tidy.distinct.mapItems _).filter _
  orderly location := by
    rw [bufferOf_purge tidy.distinct]
    exact (tidy.orderly location).sublist (List.dropWhile_sublist _)

theorem process (tidy : Tidy size since logs tracker)
    (bounded : tracker.settings.bufferSize.asBound = .ok (some size)) {arrival : Arrival}
    (onward : since <= arrival.now.instant) (serial : Nat) :
    Tidy size arrival.now.instant
      (fun location => logAfter location (logs location) (.process arrival serial))
      (tracker.after (.process arrival serial)) := by
  obtain same | same | ⟨bound, entry, statedBound, here, entered⟩ :=
    tracker.buffers_process arrival serial
  next => exact (tidy.later onward serial).congr same
  next => exact ((tidy.later onward serial).opened arrival.event.location).congr same
  next =>
    obtain rfl : some size = bound := Except.ok.inj (bounded.symm.trans statedBound)
    have recorded := tidy.recorded onward here serial
    obtain same | same := entered
    next => exact recorded.congr same
    next => exact (recorded.purged arrival.now (tracker.settings.window * 2)).congr same

theorem clear (tidy : Tidy size since logs tracker) (named : String) :
    Tidy size since (fun location => logAfter location (logs location) (.clear named))
      (tracker.clear named) where
  distinct := tidy.distinct.remove named
  orderly location := by
    rw [bufferOf_clear, logAfter_clear]
    split
    next => exact .empty size since []
    next => exact tidy.orderly location

theorem after (tidy : Tidy size since logs tracker)
    (bounded : tracker.settings.bufferSize.asBound = .ok (some size)) {call : Call}
    (onward : ∀ time ∈ call.time?, since <= time) :
    Tidy size (call.time?.getD since) (fun location => logAfter location (logs location) call)
      (tracker.after call) := by
  cases call with
  | process arrival serial => exact tidy.process bounded (onward _ rfl) serial
  | clear named => exact tidy.clear named
  | clearAll => exact ⟨List.nodup_nil, fun location => .empty size since []⟩

theorem run {calls rest : List Call} (tidy : Tidy size since logs tracker)
    (bounded : tracker.settings.bufferSize.asBound = .ok (some size))
    (onward : Onward Call.time? since (calls ++ rest)) :
    ∃ reached, Onward Call.time? reached rest ∧
      Tidy size reached (fun location => calls.foldl (logAfter location) (logs location))
        (tracker.run calls) := by
  induction calls generalizing since logs tracker with
  | nil => exact ⟨since, onward, tidy⟩
  | cons call calls ih =>
    have next := tidy.after bounded onward.head
    apply ih next _ onward.tail
    rw [settings_after, bounded]

end Tidy

theorem mem_buffers_purge {size : Nat} {since : Int} {logs : String -> List Arrival}
    {tracker : CorrelationTracker} (tidy : Tidy size since logs tracker) {now : Moment}
    {horizon : Int} {location : String} {buffer : List BufferedEvent}
    (kept : (location, buffer) ∈ (tracker.purge now horizon).buffers) :
    buffer ≠ [] ∧ Orderly size since (logs location) buffer ∧
      ∀ entry ∈ buffer, now.since entry.arrival < horizon := by
  have purged := tidy.purged now horizon
  have found : (tracker.purge now horizon).bufferOf location = buffer := by
    rw [bufferOf, Entries.get?_of_mem purged.distinct kept, Option.getD_some]
  refine ⟨?_, found ▸ purged.orderly location, ?_⟩
  next =>
    have notEmpty := (List.mem_filter.mp kept).2
    simpa using notEmpty
  next =>
    rw [<- found, bufferOf_purge tidy.distinct]
    exact (tidy.orderly location).young

/-- Once an event was processed to its end, whatever became of those before it, every buffer holds
something, no more than it may, in the order of arrival, and nothing of twice the window's age; so
each is at a location where something has happened within that time. -/
theorem buffers_bounded_and_young {settings : CorrelationSettings} {size : Nat}
    (whole : settings.bufferSize.asWhole = .ok size) {before : List Call} {arrival : Arrival}
    {serial : Nat} (ordered : InOrder Call.time? (before ++ [.process arrival serial]))
    (passed : (((start settings).run before).perform (.process arrival serial)).failure = none) :
    let calls := before ++ [.process arrival serial]
    let buffers := ((start settings).run calls).buffers
    Entries.Distinct buffers ∧ ∀ location buffer, (location, buffer) ∈ buffers ->
      buffer ≠ [] ∧ buffer.length <= size ∧
        (buffer.Pairwise fun earlier later => earlier.arrival.instant <= later.arrival.instant) ∧
        (∀ entry ∈ buffer, arrival.now.since entry.arrival < settings.window * 2) ∧
        ∃ other ∈ logOf location calls, arrival.now.since other.now < settings.window * 2 := by
  intro calls buffers
  let tracker := (start settings).run before
  have same : tracker.settings = settings := settings_run (start settings) before
  obtain ⟨passage⟩ := passage_of_passed passed
  have stated := passage.bounded
  rw [same] at stated
  have capacity : passage.bound = some size := bound_of_whole whole stated
  obtain ⟨since, onward⟩ := ordered.onward
  have fresh : Tidy size since (fun _ => []) (start settings) :=
    ⟨List.nodup_nil, fun location => .empty size since []⟩
  obtain ⟨reached, later, tidy⟩ := fresh.run (stated.trans (congrArg _ capacity)) onward
  have here : passage.entry.arrival = arrival.now :=
    congrArg (·.arrival) (eq_entryAt passage.entered)
  have recorded := tidy.recorded (later.head _ rfl) here serial
  have left : buffers = (((tracker.openBuffer arrival.event.location).record (some size)
      arrival.event.location passage.entry).purge arrival.now (settings.window * 2)).buffers := by
    have ended := congrArg (·.buffers) passage.state
    rw [buffered, capacity, same] at ended
    exact (congrArg (·.buffers) (run_concat (start settings) before _)).trans ended
  rw [left]
  refine ⟨(recorded.purged _ _).distinct, fun location buffer kept => ?_⟩
  obtain ⟨notEmpty, orderly, young⟩ := mem_buffers_purge recorded kept
  refine ⟨notEmpty, orderly.few, orderly.ordered, young, ?_⟩
  obtain ⟨entry, member⟩ := List.exists_mem_of_ne_nil buffer notEmpty
  obtain ⟨other, logged, isEntry⟩ := orderly.origin entry member
  refine ⟨other, ?_, isEntry ▸ young entry member⟩
  simpa [logOf, calls, List.foldl_append] using logged

def unreadable (location : String) (seconds : Int) : Arrival :=
  seen "ld2410" location (Nat.pow 10 400) seconds

/-- In buffers of two, an event that fails in the attic leaves an empty buffer there, which the next
one in the hall takes away, together with the buffer of the cellar that has grown old. -/
theorem buffers_bounded_and_young_hall :
    let settings : CorrelationSettings := { CorrelationSettings.default with bufferSize := .int 2 }
    let before : List Call := [.process (seen "pir" "cellar" 1 0) 0,
      .process (seen "ld2410" "lab" 1 20) 0, .process (seen "pir" "lab" 1 60) 0,
      .process (seen "pir" "lab" 0 90) 0, .process (unreadable "attic" 100) 0]
    let arrival := seen "ld2410" "hall" 1 120
    let buffers := ((start settings).run (before ++ [.process arrival 0])).buffers
    settings.bufferSize.asWhole = .ok 2 ∧
      InOrder Call.time? (before ++ [.process arrival 0]) ∧
      (((start settings).run before).perform (.process arrival 0)).failure = none ∧
      Entries.keys ((start settings).run before).buffers = ["cellar", "lab", "attic"] ∧
      Entries.keys buffers = ["lab", "hall"] ∧
      ∀ location buffer, (location, buffer) ∈ buffers -> buffer ≠ [] ∧ buffer.length <= 2 := by
  intro settings before arrival buffers
  have whole : settings.bufferSize.asWhole = .ok 2 := rfl
  have ordered : InOrder Call.time? (before ++ [.process arrival 0]) := by
    unfold InOrder
    decide +kernel
  have passed : (((start settings).run before).perform (.process arrival 0)).failure = none := by
    decide +kernel
  obtain ⟨-, kept⟩ := @buffers_bounded_and_young settings 2 whole before arrival 0 ordered passed
  refine ⟨whole, ordered, passed, by decide +kernel, by decide +kernel, ?_⟩
  intro location buffer member
  obtain ⟨notEmpty, few, -⟩ := kept location buffer member
  exact ⟨notEmpty, few⟩

end SensorAlerting.Detection.CorrelationTracker
