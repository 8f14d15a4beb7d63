import SensorAlerting.Proofs.Stream.Dealing

set_option autoImplicit false

/-!
Runs of a worker that consumes a stream. What is still going to be done is read off the state; every
step does the first of it, and takes some of the work off the run.
-/

namespace SensorAlerting.Stream

open SensorAlerting.Number SensorAlerting.Time

namespace Phase

def outlook : Phase -> List Deed
  | .acking entryId rest => .acked entryId :: dealt rest
  | .holding entryId payload rest =>
    .handed entryId payload ::
      if Event.StatesBeyondClocks (.mapping payload) then []
      else .acked entryId :: dealt rest
  | _ => []

def work : Phase -> Nat
  | .ended => 0
  | .reading => 1
  | .pausing | .grouping => 2
  | .idle => 3
  | .failed _ => 4
  | .acking _ rest => 5 + 2 * rest.length
  | .holding _ _ rest => 6 + 2 * rest.length

def deeds : Phase -> List Deed
  | .acking entryId _ => [.acked entryId]
  | .holding entryId payload _ => [.handed entryId payload]
  | _ => []

end Phase

namespace ReadOutcome

def entries : ReadOutcome -> List Entry
  | .batch entries => entries
  | _ => []

def work : ReadOutcome -> Nat
  | .batch entries => 4 + 2 * entries.length
  | .failure => 2
  | .broken _ => 4

def workOf : List ReadOutcome -> Nat
  | [] => 0
  | outcome :: later => outcome.work + workOf later

end ReadOutcome

namespace Source

structure Live (source : Source) : Prop where
  connected : source.connected = true
  opened : source.closed = false
  going : source.phase ≠ .ended

variable {source : Source}

theorem ifConnected_live (connected : source.connected = true) (phase : Phase) :
    source.ifConnected phase = { source with phase } := by simp [ifConnected, connected]

theorem readOn_live (connected : source.connected = true) (opened : source.closed = false) :
    source.readOn = { source with phase := .reading } := by
  simp [readOn, ifConnected_live connected, opened]

theorem handOn_live (connected : source.connected = true) (opened : source.closed = false)
    (entries : List Entry) :
    (source.handOn entries).Live ∧ (source.handOn entries).phase.outlook = dealt entries ∧
      (source.handOn entries).phase.work <= 4 + 2 * entries.length := by
  -- Each entry that is left takes two steps: it is handed on and acknowledged.
  cases entries with
  | nil =>
    rw [handOn, readOn_live connected opened]
    exact ⟨⟨connected, opened, by simp⟩, rfl, by simp [Phase.work]⟩
  | cons entry rest =>
    simp only [handOn, dealt, List.length_cons]
    cases decoded : decodeValue entry.fields with
    | ok payload =>
      refine ⟨⟨connected, opened, by simp⟩, rfl, ?_⟩
      simp only [Phase.work]
      omega
    | error fault =>
      cases fatal : fault.isFatal with
      | true =>
        simp only [fatal, if_true]
        exact ⟨⟨connected, opened, by simp⟩, rfl, by simp [Phase.work]⟩
      | false =>
        simp only [fatal, ifConnected_live connected, Bool.false_eq_true, if_false]
        refine ⟨⟨connected, opened, by simp⟩, rfl, ?_⟩
        simp only [Phase.work]
        omega

end Source

def Script.Willing (script : Script) : Prop :=
  ∀ refusal ∈ script.refusal, Source.isGroupThere refusal = true

namespace Session

def outlook (session : Session) : List Deed :=
  session.source.phase.outlook ++ session.script.reads.flatMap fun outcome => dealt outcome.entries

def work (session : Session) : Nat :=
  session.source.phase.work + ReadOutcome.workOf session.script.reads

def Sound (session : Session) : Prop :=
  session.source.Live ∨ session.source.phase = .ended ∧ session.script.reads = []

structure Proceeds (before after : Session) : Prop where
  sound : after.Sound
  refusal : after.script.refusal = before.script.refusal
  work : before.script.Willing -> after.work < before.work

structure Advances (before after : Session) (deeds : List Deed) : Prop
    extends Proceeds before after where
  outlook : before.outlook = deeds ++ after.outlook

theorem Proceeds.of_source {before after : Session} (live : after.source.Live)
    (script : after.script.reads = before.script.reads ∧
      after.script.refusal = before.script.refusal)
    (work : before.script.Willing -> after.source.phase.work < before.source.phase.work) :
    before.Proceeds after where
  sound := .inl live
  refusal := script.2
  work := by
    intro willing
    have less := work willing
    simp only [Session.work, script.1]
    omega

theorem Advances.of_source {before after : Session} {deeds : List Deed}
    (live : after.source.Live)
    (script : after.script.reads = before.script.reads ∧
      after.script.refusal = before.script.refusal)
    (outlook : before.source.phase.outlook = deeds ++ after.source.phase.outlook)
    (work : before.script.Willing -> after.source.phase.work < before.source.phase.work) :
    before.Advances after deeds where
  toProceeds := .of_source live script work
  outlook := by simp [Session.outlook, script.1, outlook]

theorem Advances.of_read {before after : Session} {outcome : ReadOutcome}
    (reading : before.source.phase = .reading)
    (reads : before.script.reads = outcome :: after.script.reads)
    (refusal : after.script.refusal = before.script.refusal) (live : after.source.Live)
    (outlook : after.source.phase.outlook = dealt outcome.entries)
    (work : after.source.phase.work <= outcome.work) : before.Advances after [] where
  sound := .inl live
  refusal := refusal
  work := by
    intro _
    have one : before.source.phase.work = 1 := by rw [reading]; rfl
    simp only [Session.work, reads, ReadOutcome.workOf]
    omega
  outlook := by
    have none : before.source.phase.outlook = [] := by rw [reading]; rfl
    simp [Session.outlook, none, reads, outlook]

variable {session : Session}

theorem advances_pulled (live : session.source.Live) (idle : session.source.phase = .idle) :
    session.Advances (session.tell .pulled) [] := by
  obtain ⟨connected, opened, -⟩ := live
  have next : ∃ phase, (session.source.resume .pulled) = { session.source with phase } ∧
      (phase = .reading ∨ phase = .grouping) := by
    cases ready : session.source.groupReady with
    | true =>
      exact ⟨.reading, by simp [Source.resume, idle, ready, Source.readOn_live connected opened],
        .inl rfl⟩
    | false =>
      exact ⟨.grouping, by simp [Source.resume, idle, ready, Source.ifConnected_live connected],
        .inr rfl⟩
  obtain ⟨phase, resumed, reached⟩ := next
  rw [tell, resumed]
  refine .of_source ⟨connected, opened, ?_⟩ ⟨rfl, rfl⟩ ?_ ?_
  all_goals rcases reached with rfl | rfl <;> simp [idle, Phase.outlook, Phase.work]

theorem advances_group (live : session.source.Live)
    (grouping : session.source.phase = .grouping) :
    session.Advances session.answerGroup [] := by
  obtain ⟨connected, opened, -⟩ := live
  unfold answerGroup
  split
  next refusal refused =>
    cases there : Source.isGroupThere refusal with
    | true =>
      simp only [tell, Source.resume, grouping, there, if_true]
      rw [Source.readOn_live (by exact connected) (by exact opened)]
      refine .of_source ⟨connected, opened, by simp⟩ ⟨rfl, rfl⟩ ?_ ?_
      next => simp [grouping, Phase.outlook]
      next => simp [grouping, Phase.work]
    | false =>
      simp only [tell, Source.resume, grouping, there, Bool.false_eq_true, if_false]
      refine .of_source ⟨connected, opened, by simp⟩ ⟨rfl, rfl⟩ ?_ ?_
      next => simp [grouping, Phase.outlook]
      next =>
        -- The source fails and tries anew; only a group that can be made leads on.
        intro willing
        have accepted := willing refusal refused
        rw [there] at accepted
        cases accepted
  next =>
    simp only [tell, Source.resume, grouping]
    rw [Source.readOn_live (by exact connected) (by exact opened)]
    refine .of_source ⟨connected, opened, by simp⟩ ⟨rfl, rfl⟩ ?_ ?_
    next => simp [grouping, Phase.outlook]
    next => simp [grouping, Phase.work]

theorem advances_read (live : session.source.Live) (reading : session.source.phase = .reading) :
    session.Advances session.answerRead [] := by
  obtain ⟨connected, opened, -⟩ := live
  unfold answerRead
  dsimp only
  split
  next entries later brought =>
    obtain ⟨goesOn, outlook, work⟩ := Source.handOn_live connected opened entries
    simp only [tell, Source.resume, reading]
    exact .of_read reading brought rfl goesOn outlook work
  next later brought =>
    simp only [tell, Source.resume, reading, opened, Bool.false_eq_true, if_false]
    exact .of_read reading brought rfl ⟨connected, rfl, by simp⟩ rfl (Nat.le_refl 2)
  next misuse later brought =>
    simp only [tell, Source.resume, reading]
    exact .of_read reading brought rfl ⟨connected, opened, by simp⟩ rfl (Nat.le_refl 4)
  next brought =>
    -- Nothing is left to read, so that the source closes.
    simp only [tell, Source.close, Source.resume, reading, Source.handOn, Source.readOn, if_true]
    refine ⟨⟨.inr ⟨rfl, brought⟩, rfl, ?_⟩, ?_⟩
    next => simp [Session.work, reading, brought, Phase.work]
    next => simp [Session.outlook, reading, brought, Phase.outlook]

theorem advances_rested (live : session.source.Live) (pausing : session.source.phase = .pausing)
    (time : Int) : session.Advances ({ session with time }.tell .rested) [] := by
  obtain ⟨connected, opened, -⟩ := live
  simp only [tell, Source.resume, pausing, Source.readOn_live connected opened]
  refine .of_source ⟨connected, opened, by simp⟩ ⟨rfl, rfl⟩ ?_ ?_
  next => simp [pausing, Phase.outlook]
  next => simp [pausing, Phase.work]

theorem advances_ack (live : session.source.Live) {entryId : Value} {rest : List Entry}
    (acking : session.source.phase = .acking entryId rest) :
    session.Advances (session.answerAck entryId) [.acked entryId] := by
  obtain ⟨connected, opened, -⟩ := live
  obtain ⟨goesOn, outlook, work⟩ := Source.handOn_live connected opened rest
  have next : (session.answerAck entryId).source = session.source.handOn rest := by
    unfold answerAck
    split <;> simp [tell, Source.resume, acking]
  have same : (session.answerAck entryId).script.reads = session.script.reads ∧
      (session.answerAck entryId).script.refusal = session.script.refusal := by
    unfold answerAck
    split <;> exact ⟨rfl, rfl⟩
  refine .of_source (next ▸ goesOn) same ?_ ?_
  next =>
    rw [next, outlook, acking]
    rfl
  next =>
    intro _
    have before : session.source.phase.work = 5 + 2 * rest.length := by rw [acking]; rfl
    rw [next]
    omega

theorem answerGroup_kept (session : Session) :
    session.answerGroup.received = session.received ∧
      session.answerGroup.acked = session.acked ∧
      session.answerGroup.script.failingAcks = session.script.failingAcks := by
  unfold answerGroup
  split <;> exact ⟨rfl, rfl, rfl⟩

theorem answerRead_kept (session : Session) :
    session.answerRead.received = session.received ∧
      session.answerRead.acked = session.acked ∧
      session.answerRead.script.failingAcks = session.script.failingAcks := by
  unfold answerRead
  dsimp only
  split <;> exact ⟨rfl, rfl, rfl⟩

theorem answerAck_kept (session : Session) (entryId : Value) :
    (session.answerAck entryId).received = session.received ∧
      (session.answerAck entryId).acked =
        session.acked ++ [entryId].drop session.script.failingAcks ∧
      (session.answerAck entryId).script.failingAcks = session.script.failingAcks - 1 := by
  unfold answerAck
  split
  next none => simp [tell, none]
  next failing some => simp [tell, some]

end Session

end SensorAlerting.Stream
