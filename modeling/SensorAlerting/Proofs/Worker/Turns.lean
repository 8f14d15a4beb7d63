import SensorAlerting.Proofs.Worker.Pipeline
import SensorAlerting.Worker.Booth
import SensorAlerting.Worker.Timeline

set_option autoImplicit false

/-!
Events of a worker that several parties use at a time. Whatever they do in whatever order, the marks
that they leave fall into rounds: each event that is evaluated is saved and counted before anything
else is, and the consumer is never cancelled in between. A plant whose consumer reads its queue is
a booth that nobody else comes to.
-/

namespace SensorAlerting

open SensorAlerting.Time

namespace Mark

def evaluated? : Mark -> Option Event
  | .evaluated _ event => some event
  | _ => none

def counted? : Mark -> Option Event
  | .counted event => some event
  | _ => none

end Mark

/-- What is done without anything else in between. -/
inductive Round where
  | whole (party : Party) (event : Event) (success : Bool)
  | refused (party : Party) (event : Event)
  | halted

section Rounds

variable (asked : Event -> List Event)

def beginning (party : Party) (event : Event) : List Mark :=
  .evaluated party event :: (asked event).map .saving

def Round.marks : Round -> List Mark
  | .whole party event success =>
    beginning asked party event ++ (asked event).map (Mark.saved · success) ++ [.counted event]
  | .refused party event => [.refused party event]
  | .halted => [.cancelled]

def marksOf (rounds : List Round) (turn : Option Turn) : List Mark :=
  rounds.flatMap (Round.marks asked) ++
    (turn.map fun turn => beginning asked turn.party turn.event).getD []

def evaluatedIn (marks : List Mark) : List Event := marks.filterMap Mark.evaluated?

def countedIn (marks : List Mark) : List Event := marks.filterMap Mark.counted?

@[simp]
theorem evaluatedIn_append (first later : List Mark) :
    evaluatedIn (first ++ later) = evaluatedIn first ++ evaluatedIn later :=
  List.filterMap_append

@[simp]
theorem countedIn_append (first later : List Mark) :
    countedIn (first ++ later) = countedIn first ++ countedIn later := List.filterMap_append

theorem in_beginning (party : Party) (event : Event) :
    evaluatedIn (beginning asked party event) = [event] ∧
      countedIn (beginning asked party event) = [] := by
  simp [evaluatedIn, countedIn, beginning, List.filterMap_map, Function.comp_def,
    Mark.evaluated?, Mark.counted?]

theorem in_ending (event : Event) (success : Bool) :
    evaluatedIn ((asked event).map (Mark.saved · success) ++ [.counted event]) = [] ∧
      countedIn ((asked event).map (Mark.saved · success) ++ [.counted event]) = [event] := by
  simp [evaluatedIn, countedIn, List.filterMap_map, Function.comp_def, Mark.evaluated?,
    Mark.counted?]

theorem in_round (round : Round) :
    evaluatedIn (round.marks asked) = countedIn (round.marks asked) := by
  cases round with
  | whole party event success =>
    obtain ⟨begun, notYet⟩ := in_beginning asked party event
    obtain ⟨nothing, ended⟩ := in_ending asked event success
    rw [Round.marks, List.append_assoc, evaluatedIn_append, countedIn_append, begun, notYet,
      nothing, ended]
    rfl
  | refused | halted => rfl

end Rounds

theorem Sink.asked_save (sink : Sink) (event : Event) : (sink.save event).asked = sink.asked := by
  cases sink <;> rfl

theorem Worker.keepIf_frame (worker : Worker) (event : Event) (success : Bool) :
    let saved := if success then worker.keep event else worker
    saved.sink.asked = worker.sink.asked ∧ saved.saves = worker.saves ∧
      saved.processed = worker.processed := by
  cases success with
  | false => exact ⟨rfl, rfl, rfl⟩
  | true => exact ⟨Sink.asked_save worker.sink event, rfl, rfl⟩

theorem Worker.process_running (worker : Worker) (now : Moment) (event : Event) :
    (worker.process now event).1.running = worker.running := by
  unfold process
  cases evaluated : worker.evaluate now event with
  | mk between outcome =>
    obtain rfl : (worker.evaluate now event).1 = between := by rw [evaluated]
    cases outcome with
    | error fault => rfl
    | ok alerts =>
      obtain ⟨recent, concluded⟩ := conclude_eq
        (((worker.evaluate now event).1.ask event).keep event) now alerts
      dsimp only
      rw [concluded]
      rfl

theorem Worker.handle_unread (worker : Worker) {now : Moment} {payload : Value}
    {fault : PayloadFault} (unread : Event.ofPayload now payload = .error fault) :
    (worker.handle now payload).1 = if isCounted fault then worker.fail else worker := by
  cases fault with
  | timestamp stamp => cases stamp <;> simp [handle, unread, isCounted]
  | _ => simp [handle, unread, isCounted]

namespace Booth

structure Sound (first : Worker) (booth : Booth) : Prop where
  inRounds : ∃ rounds, booth.marks = marksOf first.sink.asked rounds booth.turn
  apart : booth.cancelled = true -> ∀ turn ∈ booth.turn, turn.party ≠ .consumer
  asked : booth.worker.sink.asked = first.sink.asked
  saves : booth.worker.saves =
    first.saves ++ (evaluatedIn booth.marks).flatMap first.sink.asked
  processed : booth.worker.processed = first.processed + (countedIn booth.marks).length

variable {first : Worker} {booth : Booth}

namespace Sound

theorem of_frame (sound : booth.Sound first) {other : Booth}
    (marks : other.marks = booth.marks) (turn : other.turn = booth.turn)
    (cancelled : other.cancelled = true -> booth.cancelled = true)
    (sink : other.worker.sink = booth.worker.sink)
    (saves : other.worker.saves = booth.worker.saves)
    (processed : other.worker.processed = booth.worker.processed) : other.Sound first where
  inRounds := by
    rw [marks, turn]
    exact sound.inRounds
  apart isCancelled := by
    rw [turn]
    exact sound.apart (cancelled isCancelled)
  asked := by
    rw [sink]
    exact sound.asked
  saves := by
    rw [saves, marks]
    exact sound.saves
  processed := by
    rw [processed, marks]
    exact sound.processed

theorem reject (sound : booth.Sound first) (fault : PayloadFault) :
    (booth.reject fault).Sound first := by
  unfold Booth.reject
  split
  next => exact sound.of_frame rfl rfl id rfl rfl rfl
  next => exact sound

theorem call (sound : booth.Sound first) (place : Nat) (now : Moment) (payload : Value) :
    (booth.call place now payload).Sound first := by
  unfold Booth.call
  split
  next => exact sound.of_frame rfl rfl id rfl rfl rfl
  next fault _ => exact sound.reject fault

theorem receive (sound : booth.Sound first) (now : Moment) (payload : Value) :
    (booth.receive now payload).Sound first := by
  unfold Booth.receive
  split
  next =>
    split
    next =>
      split
      next => exact sound.of_frame rfl rfl id rfl rfl rfl
      next fault _ => exact sound.reject fault
    next => exact sound.of_frame rfl rfl id rfl rfl rfl
  next => exact sound

theorem leave (sound : booth.Sound first) : booth.leave.Sound first := by
  unfold Booth.leave
  split
  next => exact sound.of_frame rfl rfl id rfl rfl rfl
  next => exact sound

theorem stop (sound : booth.Sound first) : booth.stop.Sound first := by
  unfold Booth.stop
  split
  next => exact sound.of_frame rfl rfl id rfl rfl rfl
  next => exact sound

theorem release (sound : booth.Sound first) (party : Party) :
    (booth.release party).Sound first := by
  unfold Booth.release
  split
  next => exact sound.of_frame rfl rfl id rfl rfl rfl
  next => exact sound

theorem of_round (sound : booth.Sound first) (free : booth.turn = none) {round : Round}
    (nothing : evaluatedIn (round.marks first.sink.asked) = []) {other : Booth}
    (turn : other.turn = none)
    (marks : other.marks = booth.marks ++ round.marks first.sink.asked)
    (sink : other.worker.sink = booth.worker.sink)
    (saves : other.worker.saves = booth.worker.saves)
    (processed : other.worker.processed = booth.worker.processed) : other.Sound first where
  inRounds := by
    obtain ⟨rounds, inRounds⟩ := sound.inRounds
    rw [free] at inRounds
    exact ⟨rounds ++ [round], by simp [marks, inRounds, turn, marksOf]⟩
  apart _ inside member := by
    rw [turn] at member
    cases member
  asked := by
    rw [sink]
    exact sound.asked
  saves := by
    rw [saves, marks, evaluatedIn_append, nothing, List.append_nil]
    exact sound.saves
  processed := by
    rw [processed, marks, countedIn_append, <- in_round, nothing, List.append_nil]
    exact sound.processed

theorem halt (sound : booth.Sound first) : booth.halt.Sound first := by
  unfold Booth.halt
  split
  next stops free _ =>
    have nothing : evaluatedIn (Round.halted.marks first.sink.asked) = [] := rfl
    exact sound.of_round free nothing free rfl rfl rfl rfl
  next => exact sound

theorem interrupt (sound : booth.Sound first) : booth.interrupt.Sound first := by
  unfold Booth.interrupt
  split
  next cancelled =>
    dsimp only
    split
    next turn inside =>
      -- The mark of an abandoned event is never made: who is inside has not been cancelled.
      have other := sound.apart cancelled turn inside
      rw [if_neg (by simpa using other)]
      exact sound.of_frame rfl rfl (fun isCancelled => by cases isCancelled) rfl rfl rfl
    next => exact sound.of_frame rfl rfl (fun isCancelled => by cases isCancelled) rfl rfl rfl
  next => exact sound

theorem enter (sound : booth.Sound first) (place : Nat) (now : Moment) :
    (booth.enter place now).Sound first := by
  unfold Booth.enter
  split
  next party event free _ =>
    split
    next admitted =>
      dsimp only
      split
      next worker alerts evaluated =>
        obtain rfl : (booth.worker.evaluate now event).1 = worker := by rw [evaluated]
        obtain ⟨rounds, inRounds⟩ := sound.inRounds
        obtain ⟨begun, notYet⟩ := in_beginning first.sink.asked party event
        have asked : (booth.worker.evaluate now event).1.sink.asked = first.sink.asked :=
          sound.asked
        have marks : Mark.evaluated party event ::
            ((booth.worker.evaluate now event).1.sink.asked event).map Mark.saving =
              beginning first.sink.asked party event := by rw [asked, beginning]
        rw [marks]
        rw [free] at inRounds
        exact
          { inRounds := ⟨rounds, by simp [inRounds, marksOf]⟩
            apart := by
              intro cancelled turn inside isConsumer
              obtain rfl := Option.some.inj inside
              -- Who has been cancelled is not let in.
              have uncancelled : party = .consumer -> booth.cancelled = false := by
                simpa [admits, Decidable.imp_iff_not_or] using admitted
              cases (uncancelled isConsumer).symm.trans cancelled
            asked
            saves := by
              have before : (booth.worker.evaluate now event).1.saves = _ := sound.saves
              rw [evaluatedIn_append, begun, Worker.ask, asked, before]
              simp
            processed := by
              rw [countedIn_append, notYet, List.append_nil]
              exact sound.processed }
      next worker fault evaluated =>
        obtain rfl : (booth.worker.evaluate now event).1 = worker := by rw [evaluated]
        have nothing : evaluatedIn ((Round.refused party event).marks first.sink.asked) = [] := rfl
        refine Sound.release ?_ party
        exact sound.of_round free nothing free rfl rfl rfl rfl
    next => exact sound
  next => exact sound

theorem finish (sound : booth.Sound first) (success : Bool) (now : Moment) :
    (booth.finish success now).Sound first := by
  unfold Booth.finish
  split
  next turn inside =>
    refine Sound.release ?_ turn.party
    obtain ⟨rounds, inRounds⟩ := sound.inRounds
    obtain ⟨nothing, ended⟩ := in_ending first.sink.asked turn.event success
    obtain ⟨asked, saves, processed⟩ := booth.worker.keepIf_frame turn.event success
    obtain ⟨recent, concluded⟩ := Worker.conclude_eq
      (if success then booth.worker.keep turn.event else booth.worker) now turn.alerts
    rw [inside] at inRounds
    rw [concluded, sound.asked, List.append_assoc]
    exact
      { inRounds := ⟨rounds ++ [.whole turn.party turn.event success],
          by simp [inRounds, marksOf, Round.marks]⟩
        apart := fun _ _ member => by cases member
        asked := asked.trans sound.asked
        saves := by
          rw [evaluatedIn_append, nothing, List.append_nil]
          exact saves.trans sound.saves
        processed := by
          rw [countedIn_append, ended]
          simp [processed, sound.processed, Nat.add_assoc] }
  next => exact sound

theorem step (sound : booth.Sound first) (act : Act) : (booth.step act).Sound first := by
  cases act with
  | give place event => exact sound.of_frame rfl rfl id rfl rfl rfl
  | call place now payload => exact sound.call place now payload
  | receive now payload => exact sound.receive now payload
  | leave => exact sound.leave
  | enter place now => exact sound.enter place now
  | finish success now => exact sound.finish success now
  | stop => exact sound.stop
  | halt => exact sound.halt
  | interrupt => exact sound.interrupt

theorem run (sound : booth.Sound first) (acts : List Act) : (booth.run acts).Sound first := by
  induction acts generalizing booth with
  | nil => exact sound
  | cons act later ih => exact ih (sound.step act)

end Sound

theorem release_frame (booth : Booth) (party : Party) :
    (booth.release party).marks = booth.marks ∧ (booth.release party).worker = booth.worker ∧
      (booth.release party).turn = booth.turn := by
  unfold release
  split <;> exact ⟨rfl, rfl, rfl⟩

theorem finish_free {booth : Booth} (free : booth.turn = none) (success : Bool) (now : Moment) :
    booth.finish success now = booth := by
  unfold finish
  rw [free]

theorem worker_turn {booth : Booth} {place : Nat} {party : Party} {event : Event}
    (free : booth.turn = none) (here : booth.waiting[place]? = some (party, event))
    (admitted : booth.admits party = true) (now : Moment) :
    ((booth.enter place now).finish true now).worker = (booth.worker.process now event).1 := by
  unfold enter Worker.process
  rw [free, here]
  dsimp only
  rw [if_pos admitted]
  cases booth.worker.evaluate now event with
  | mk worker outcome =>
    cases outcome with
    | error fault =>
      obtain ⟨-, same, stillFree⟩ := release_frame
        { booth with
          worker := worker.fail
          waiting := booth.waiting.eraseIdx place
          turn := none
          marks := booth.marks ++ [.refused party event] } party
      dsimp only
      rw [finish_free stillFree, same]
    | ok alerts => exact (release_frame _ party).2.1

/-- Nobody is inside or waits, and the consumer of a running worker asks for a payload. -/
structure Quiet (booth : Booth) : Prop where
  free : booth.turn = none
  nobody : booth.waiting = []
  asks : booth.consumer = .asking
  uncancelled : booth.cancelled = false
  running : booth.worker.running = true

def handling (now : Moment) (payload : Value) : List Act :=
  [.receive now payload, .enter 0 now, .finish true now]

theorem quiet_turn {booth : Booth} {event : Event}
    (alone : booth.waiting = [(.consumer, event)]) (free : booth.turn = none)
    (uncancelled : booth.cancelled = false) (running : booth.worker.running = true)
    (now : Moment) :
    ((booth.enter 0 now).finish true now).worker = (booth.worker.process now event).1 ∧
      ((booth.enter 0 now).finish true now).Quiet := by
  have admitted : booth.admits .consumer = true := by simp [admits, uncancelled]
  have first : booth.waiting[0]? = some (.consumer, event) := by
    rw [alone]
    rfl
  have same := worker_turn free first admitted now
  refine ⟨same, ?_⟩
  have stillRunning : ((booth.enter 0 now).finish true now).worker.running = true := by
    rw [same, Worker.process_running, running]
  unfold enter at stillRunning ⊢
  rw [free, alone] at stillRunning ⊢
  simp only [List.getElem?_cons_zero, admitted, if_true] at stillRunning ⊢
  cases evaluated : booth.worker.evaluate now event with
  | mk worker outcome =>
    rw [evaluated] at stillRunning
    cases outcome with
    | error fault => exact ⟨rfl, rfl, rfl, uncancelled, stillRunning⟩
    | ok alerts => exact ⟨rfl, rfl, rfl, uncancelled, stillRunning⟩

theorem Quiet.reject {booth : Booth} (quiet : booth.Quiet) (fault : PayloadFault) :
    (booth.reject fault).Quiet := by
  unfold Booth.reject
  split
  next => exact ⟨quiet.free, quiet.nobody, quiet.asks, quiet.uncancelled, quiet.running⟩
  next => exact quiet

theorem Quiet.handle {booth : Booth} (quiet : booth.Quiet) (now : Moment) (payload : Value) :
    (booth.run (handling now payload)).worker = (booth.worker.handle now payload).1 ∧
      (booth.run (handling now payload)).Quiet := by
  change (((booth.receive now payload).enter 0 now).finish true now).worker = _ ∧
    (((booth.receive now payload).enter 0 now).finish true now).Quiet
  have here : (booth.consumer == .asking && !booth.cancelled) = true := by
    rw [quiet.asks, quiet.uncancelled]
    rfl
  unfold receive
  rw [if_pos here, if_pos quiet.running]
  cases read : Event.ofPayload now payload with
  | error fault =>
    have still := quiet.reject fault
    have nobodyIn : (booth.reject fault).enter 0 now = booth.reject fault := by
      unfold enter
      rw [still.free, still.nobody]
      rfl
    dsimp only
    rw [nobodyIn, finish_free still.free, booth.worker.handle_unread read]
    refine ⟨?_, still⟩
    unfold Booth.reject
    split <;> rfl
  | ok event =>
    have handled : booth.worker.handle now payload = booth.worker.process now event := by
      simp [Worker.handle, read]
    have alone : ({ booth with consumer := .bringing }.await .consumer event).waiting =
        [(.consumer, event)] := by simp [await, quiet.nobody]
    rw [handled]
    exact quiet_turn alone quiet.free quiet.uncancelled quiet.running now

end Booth

/-- The consumer of a plant brings the payloads of its queue one by one, up to its end or to one that
interrupts it, as the consumer of a booth does. -/
theorem Plant.worker_readAll {booth : Booth} {plant : Plant} (quiet : booth.Quiet)
    (same : booth.worker = plant.worker) (now : Moment) (items : List (Option Value)) :
    ∃ payloads : List Value, payloads.map some <+: items ∧
      (booth.run (payloads.flatMap (Booth.handling now))).worker =
        (readAll now plant items).worker := by
  induction items generalizing booth plant with
  | nil => exact ⟨[], List.nil_prefix, same⟩
  | cons item rest ih =>
    cases item with
    | none => exact ⟨[], List.nil_prefix, same⟩
    | some payload =>
      obtain ⟨handled, still⟩ := quiet.handle now payload
      rw [same] at handled
      rw [readAll]
      dsimp only
      split
      next =>
        let later : Plant := { plant with worker := (plant.worker.handle now payload).1 }
        obtain ⟨payloads, among, ran⟩ := @ih _ later still handled
        refine ⟨payload :: payloads, by simpa using among, ?_⟩
        rw [List.flatMap_cons, Booth.run, List.foldl_append]
        exact ran
      next => exact ⟨[payload], by simp, handled⟩

namespace Booth

end Booth

end SensorAlerting
