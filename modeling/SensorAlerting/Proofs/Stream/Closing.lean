import SensorAlerting.Proofs.Stream.Acknowledging

set_option autoImplicit false

/-!
What is left of an iteration when its source is closed. A closed source ends at its next read, but
it goes through the entries that it has got, and an acknowledgement needs the connection that the
closing gave up. So the iteration ends well exactly if nothing is held and no entry is to come.
-/

namespace SensorAlerting.Stream

namespace Phase

/-- Whether a source turns to its connection next, whatever it is told. -/
def turnsToConnection (groupReady : Bool) : Phase -> Bool
  | .idle => !groupReady
  | .holding _ _ _ => true
  | _ => false

def ahead : Phase -> Signal -> List Entry
  | .reading, .entries batch => batch
  | .acking _ rest, .acked _ => rest
  | _, _ => []

def isOver : Phase -> Bool
  | .ended | .failed _ => true
  | _ => false

def closedAt : List Entry -> Phase
  | [] => .ended
  | entry :: rest =>
    match decodeValue entry.fields with
    | .ok payload => .holding entry.entryId payload rest
    | .error fault => .failed (if fault.isFatal then .entry fault else .notConnected)

def further : List Entry -> List (Entries String Value)
  | [] => []
  | entry :: _ => (decodeValue entry.fields).toOption.toList

def offers : Phase -> List (Entries String Value)
  | .holding _ payload _ => [payload]
  | _ => []

theorem offers_closedAt (entries : List Entry) : (closedAt entries).offers = further entries := by
  cases entries with
  | nil => rfl
  | cons entry rest =>
    rw [closedAt, further]
    cases decodeValue entry.fields <;> rfl

theorem not_awaits_of_isOver {phase : Phase} (finished : phase.isOver = true) (signal : Signal) :
    phase.awaits signal = false := by
  cases phase with
  | ended | failed => rfl
  | _ => cases finished

end Phase

structure Source.IsClosed (source : Source) : Prop where
  closed : source.closed = true
  disconnected : source.connected = false

namespace Source

variable {source : Source}

theorem isClosed_close (source : Source) : source.close.IsClosed := ⟨rfl, rfl⟩

theorem IsClosed.resume (isClosed : source.IsClosed) (signal : Signal) :
    (source.resume signal).IsClosed := by
  obtain ⟨connected, closed⟩ := source.resume_connected signal
  exact ⟨closed.trans isClosed.closed, connected.trans isClosed.disconnected⟩

theorem IsClosed.readOn (isClosed : source.IsClosed) : source.readOn.phase = .ended := by
  simp [Source.readOn, isClosed.closed]

theorem IsClosed.handOn (isClosed : source.IsClosed) (entries : List Entry) :
    (source.handOn entries).phase = .closedAt entries := by
  cases entries with
  | nil => exact isClosed.readOn
  | cons entry rest =>
    rw [Source.handOn, Phase.closedAt]
    cases decoded : decodeValue entry.fields with
    | ok payload => rfl
    | error fault =>
      dsimp only
      cases fault.isFatal <;> simp [ifConnected, isClosed.disconnected]

theorem IsClosed.phase_resume (isClosed : source.IsClosed) {signal : Signal}
    (awaited : source.phase.awaits signal = true) (ordinary : signal.IsOrdinary) :
    (source.resume signal).phase =
      if source.phase.turnsToConnection source.groupReady then .failed .notConnected
      else .closedAt (source.phase.ahead signal) := by
  have ready : { source with groupReady := true }.IsClosed := ⟨isClosed.1, isClosed.2⟩
  cases phase : source.phase with
  | idle =>
    cases signal with
    | pulled =>
      cases known : source.groupReady with
      | true => simp [Source.resume, phase, known, isClosed.readOn, Phase.turnsToConnection,
          Phase.ahead, Phase.closedAt]
      | false => simp [Source.resume, phase, known, ifConnected, isClosed.disconnected,
          Phase.turnsToConnection]
    | _ => rw [phase] at awaited; cases awaited
  | grouping =>
    cases signal with
    | grouped refusal =>
      cases refusal with
      | none => simpa [Source.resume, phase, Phase.turnsToConnection, Phase.ahead,
          Phase.closedAt] using ready.readOn
      | some refusal =>
        have known : isGroupThere refusal = true := ordinary
        simpa [Source.resume, phase, known, Phase.turnsToConnection, Phase.ahead,
          Phase.closedAt] using ready.readOn
    | _ => rw [phase] at awaited; cases awaited
  | reading =>
    cases signal with
    | entries batch => simpa [Source.resume, phase, Phase.turnsToConnection, Phase.ahead]
        using isClosed.handOn batch
    | readFailed => simp [Source.resume, phase, isClosed.closed, Phase.turnsToConnection,
        Phase.ahead, Phase.closedAt]
    | readBroken misuse => exact ordinary.elim
    | _ => rw [phase] at awaited; cases awaited
  | pausing =>
    cases signal with
    | rested => simpa [Source.resume, phase, Phase.turnsToConnection, Phase.ahead,
        Phase.closedAt] using isClosed.readOn
    | _ => rw [phase] at awaited; cases awaited
  | acking entryId rest =>
    cases signal with
    | acked success => simpa [Source.resume, phase, Phase.turnsToConnection, Phase.ahead]
        using isClosed.handOn rest
    | _ => rw [phase] at awaited; cases awaited
  | holding entryId payload rest =>
    cases signal with
    | pulled => simp [Source.resume, phase, ifConnected, isClosed.disconnected,
        Phase.turnsToConnection]
    | _ => rw [phase] at awaited; cases awaited
  | ended | failed => rw [phase] at awaited; cases awaited

end Source

def Occurrence.payload? : Occurrence -> Option (Entries String Value)
  | .handed _ payload => some payload
  | _ => none

namespace Stage

open Occurrence

def handed (stage : Stage) : List (Entries String Value) := stage.trace.filterMap payload?

def close (stage : Stage) : Stage := { stage with source := stage.source.close }

variable {stage : Stage} {signal : Signal}

theorem foldl_hear_of_isOver (finished : stage.source.phase.isOver = true) (signals : List Signal) :
    signals.foldl hear stage = stage := by
  induction signals with
  | nil => rfl
  | cons signal later ih =>
    rw [List.foldl_cons, hear_unawaited (Phase.not_awaits_of_isOver finished signal), ih]

theorem handed_hear (awaited : stage.source.phase.awaits signal = true) :
    (stage.hear signal).handed = stage.handed ++ (stage.source.resume signal).phase.offers := by
  have silent : (stage.source.phase.hears signal).filterMap payload? = [] := by
    cases stage.source.phase <;> cases signal <;> rfl
  rw [hear_awaited awaited]
  simp only [handed, List.filterMap_append, silent, List.append_nil]
  cases (stage.source.resume signal).phase <;> rfl

theorem foldl_hear_of_holding (isClosed : stage.source.IsClosed) {entryId : Value}
    {payload : Entries String Value} {rest : List Entry}
    (holds : stage.source.phase = .holding entryId payload rest) (signals : List Signal) :
    (signals.foldl hear stage).handed = stage.handed ∧
      (signals.foldl hear stage).source.phase ≠ .ended ∧
      (.pulled ∈ signals -> (signals.foldl hear stage).source.phase = .failed .notConnected) := by
  induction signals with
  | nil => exact ⟨rfl, by simp [holds], by simp⟩
  | cons signal later ih =>
    cases awaited : stage.source.phase.awaits signal with
    | false =>
      have other : signal ≠ .pulled := by
        rintro rfl
        rw [holds] at awaited
        cases awaited
      rw [List.foldl_cons, hear_unawaited awaited]
      refine ⟨ih.1, ih.2.1, fun member => ih.2.2 ?_⟩
      exact (List.mem_cons.mp member).resolve_left (Ne.symm other)
    | true =>
      obtain rfl : signal = .pulled := by
        rw [holds] at awaited
        cases signal with
        | pulled => rfl
        | _ => cases awaited
      have failed : (stage.source.resume .pulled).phase = .failed .notConnected := by
        simp [Source.resume, holds, Source.ifConnected, isClosed.disconnected]
      have kept := handed_hear awaited
      rw [failed] at kept
      have phase : (stage.hear .pulled).source.phase = .failed .notConnected := by
        rw [hear_awaited awaited, failed]
      rw [List.foldl_cons, foldl_hear_of_isOver (phase ▸ rfl)]
      exact ⟨kept.trans (List.append_nil _), by simp [phase], fun _ => phase⟩

theorem hear_close (awaited : stage.source.phase.awaits signal = true)
    (ordinary : signal.IsOrdinary) :
    let next := stage.close.hear signal
    next.source.IsClosed ∧ next.handed = stage.handed ++ next.source.phase.offers ∧
      next.source.phase =
        if stage.source.phase.turnsToConnection stage.source.groupReady then .failed .notConnected
        else .closedAt (stage.source.phase.ahead signal) := by
  intro next
  have isClosed : stage.close.source.IsClosed := stage.source.isClosed_close
  have awaitedToo : stage.close.source.phase.awaits signal = true := awaited
  have told : next.source = stage.close.source.resume signal :=
    congrArg Stage.source (hear_awaited awaitedToo)
  rw [told]
  exact ⟨isClosed.resume signal, handed_hear awaitedToo, isClosed.phase_resume awaitedToo ordinary⟩

theorem close_spec (awaited : stage.source.phase.awaits signal = true)
    (ordinary : signal.IsOrdinary) (turns : stage.source.phase.turnsToConnection
      stage.source.groupReady = false) (after : List Signal) :
    let entries := stage.source.phase.ahead signal
    let final := (signal :: after).foldl hear stage.close
    final.handed = stage.handed ++ Phase.further entries ∧
      (final.source.phase = .ended ↔ entries = []) ∧
      (entries ≠ [] -> .pulled ∈ after -> ∃ fault, final.source.phase = .failed fault) := by
  intro entries final
  obtain ⟨isClosed, handed, phase⟩ := hear_close awaited ordinary
  replace phase : (stage.close.hear signal).source.phase = .closedAt entries :=
    phase.trans (if_neg (Bool.eq_false_iff.mp turns))
  rw [phase, Phase.offers_closedAt] at handed
  cases ahead : entries with
  | nil =>
    rw [ahead] at phase handed
    have finished : final = stage.close.hear signal := foldl_hear_of_isOver (phase ▸ rfl) after
    rw [finished]
    exact ⟨handed, by simp [phase, Phase.closedAt], fun some => absurd rfl some⟩
  | cons entry rest =>
    rw [ahead] at handed
    rw [ahead, Phase.closedAt] at phase
    cases decoded : decodeValue entry.fields with
    | ok payload =>
      rw [decoded] at phase
      obtain ⟨kept, going, fails⟩ := foldl_hear_of_holding isClosed phase after
      exact ⟨kept.trans handed, iff_of_false going (List.cons_ne_nil _ _),
        fun _ pulled => ⟨_, fails pulled⟩⟩
    | error fault =>
      rw [decoded] at phase
      have finished : final = stage.close.hear signal := foldl_hear_of_isOver (phase ▸ rfl) after
      rw [finished]
      exact ⟨handed, iff_of_false (by simp [phase]) (List.cons_ne_nil _ _), fun _ _ => ⟨_, phase⟩⟩

theorem close_turning (awaited : stage.source.phase.awaits signal = true)
    (ordinary : signal.IsOrdinary) (turns : stage.source.phase.turnsToConnection
      stage.source.groupReady = true) (after : List Signal) :
    let final := (signal :: after).foldl hear stage.close
    final.handed = stage.handed ∧ final.source.phase = .failed .notConnected := by
  intro final
  obtain ⟨-, handed, phase⟩ := hear_close awaited ordinary
  rw [if_pos turns] at phase
  rw [phase] at handed
  have finished : final = stage.close.hear signal := foldl_hear_of_isOver (phase ▸ rfl) after
  rw [finished]
  exact ⟨handed.trans (List.append_nil _), phase⟩

/-- At whatever moment a source is closed, its iteration hands nothing more on and ends exactly if
no payload is held, no group is to be made and no entry is to come, be it from the rest of a batch
or from a read that is under way. Otherwise it fails, at the latest when it is asked again. -/
theorem close_ends_iff (awaited : stage.source.phase.awaits signal = true)
    (ordinary : signal.IsOrdinary) (after : List Signal) :
    let final := (signal :: after).foldl hear stage.close
    let quiet := stage.source.phase.turnsToConnection stage.source.groupReady = false ∧
      stage.source.phase.ahead signal = []
    (final.handed = stage.handed ∧ final.source.phase = .ended ↔ quiet) ∧
    (¬ quiet -> .pulled ∈ after -> ∃ fault, final.source.phase = .failed fault) ∧
    final.handed = stage.handed ++
      if stage.source.phase.turnsToConnection stage.source.groupReady then []
      else Phase.further (stage.source.phase.ahead signal) := by
  intro final quiet
  cases turns : stage.source.phase.turnsToConnection stage.source.groupReady with
  | true =>
    obtain ⟨handed, failed⟩ := close_turning awaited ordinary turns after
    have loud : ¬ quiet := fun calm => absurd (turns.symm.trans calm.1) (by decide)
    refine ⟨iff_of_false (fun ends => ?_) loud, fun _ _ => ⟨_, failed⟩, ?_⟩
    next =>
      rw [show final.source.phase = _ from failed] at ends
      cases ends.2
    next => rw [if_pos rfl, List.append_nil]; exact handed
  | false =>
    obtain ⟨handed, ended, fails⟩ := close_spec awaited ordinary turns after
    refine ⟨⟨fun ends => ⟨turns, ended.mp ends.2⟩, fun calm => ⟨?_, ended.mpr calm.2⟩⟩,
      fun loud => fails fun none => loud ⟨turns, none⟩, handed⟩
    rw [show final.handed = _ from handed, calm.2, Phase.further, List.append_nil]

/-- Closed while a read is under way that brings nothing, the iteration ends. -/
theorem close_ends_iff_reading :
    let stage := run true [.pulled]
    stage.source.phase.awaits (.entries []) = true ∧ (Signal.entries []).IsOrdinary ∧
      ([.entries [], .pulled].foldl hear stage.close).handed = [] ∧
      ([.entries [], .pulled].foldl hear stage.close).source.phase = .ended := by
  intro stage
  have awaited : stage.source.phase.awaits (.entries []) = true := rfl
  obtain ⟨ends, -⟩ := close_ends_iff awaited trivial [.pulled]
  exact ⟨awaited, trivial, ends.mpr ⟨rfl, rfl⟩⟩

def twoReports : List Entry :=
  [{ entryId := .text "1-0", fields := .mapping [("device_id", .text "d1")] },
    { entryId := .text "2-0", fields := .mapping [("device_id", .text "d2")] }]

/-- Closed while its consumer has a payload, a source fails; closed during an acknowledgement or a
read, it hands one more payload on before that. -/
theorem close_fails :
    let held := run true [.pulled, .entries twoReports]
    let acking := run true [.pulled, .entries twoReports, .pulled]
    let reading := run true [.pulled]
    (held.close.hear .pulled).source.phase = .failed .notConnected ∧
    (acking.close.hear (.acked true)).handed =
      [[("device_id", .text "d1")], [("device_id", .text "d2")]] ∧
    ((acking.close.hear (.acked true)).hear .pulled).source.phase = .failed .notConnected ∧
    (reading.close.hear (.entries twoReports)).handed = [[("device_id", .text "d1")]] ∧
    ((reading.close.hear (.entries twoReports)).hear .pulled).source.phase =
      .failed .notConnected := ⟨rfl, rfl, rfl, rfl, rfl⟩

end Stage

end SensorAlerting.Stream
