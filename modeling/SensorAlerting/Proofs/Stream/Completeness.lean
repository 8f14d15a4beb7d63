import SensorAlerting.Proofs.Stream.Consuming

set_option autoImplicit false

/-!
How much of a stream gets through to a worker. A run deals with every entry of every batch, once and
in order, exactly if no entry interrupts its batch and no payload finds the rate window reaching
back before the calendar.
-/

namespace SensorAlerting

open SensorAlerting.Number SensorAlerting.Time

theorem Worker.isPassedOver_handle (worker : Worker) (now : Moment) (payload : Value) :
    Plant.isPassedOver (worker.handle now payload).2 = true ↔
      ¬ Event.StatesBeyondClocks payload ∧ ¬ worker.OutreachesCalendar now payload := by
  constructor
  next =>
    intro passed
    refine ⟨fun stated => ?_, fun outreaches => ?_⟩
    next =>
      obtain ⟨stamp, same⟩ := worker.handle_beyond now stated
      simp [same, Plant.isPassedOver] at passed
    next => simp [(handle_outreaching outreaches).1, Plant.isPassedOver] at passed
  next =>
    intro clear
    cases handle_accounted clear.1 clear.2 with
    | inl processed =>
      obtain ⟨event, alerts, -, -, outcome, -⟩ := processed
      rw [outcome]
      rfl
    | inr refused =>
      obtain ⟨deviceId, cause, outcome, -⟩ := refused
      rw [outcome]
      rfl

namespace Stream.Intake

variable {intake : Intake} {now : Moment}

/-- Whether a payload is given to the worker while the rate window reaches back before the
calendar. -/
def Outreaches (intake : Intake) (now : Moment) : Prop :=
  ∃ entryId payload rest, intake.session.source.phase = .holding entryId payload rest ∧
    intake.worker.OutreachesCalendar now (.mapping payload)

def StaysWithin (intake : Intake) : List Moment -> Prop
  | [] => True
  | now :: later => ¬ intake.Outreaches now ∧ (intake.step now).StaysWithin later

def deeds (intake : Intake) : List Moment -> List Deed
  | [] => []
  | now :: later => intake.session.source.phase.deeds ++ (intake.step now).deeds later

theorem advances_retry (intake : Intake) {before : Session} (live : before.source.Live)
    (same : intake.session.source = before.source ∧ intake.session.script = before.script)
    (work : 3 < before.source.phase.work) :
    before.Proceeds intake.retry.session ∧
      intake.retry.session.outlook =
        before.script.reads.flatMap fun outcome => dealt outcome.entries := by
  -- The batch is forgotten, so that only the reads that are still ahead count.
  obtain ⟨connected, opened, -⟩ := live
  rw [<- same.1] at connected opened
  refine ⟨.of_source ⟨connected, opened, by simp [retry, Source.renew]⟩ ?_ fun _ => work, ?_⟩
  next => exact ⟨congrArg _ same.2, congrArg _ same.2⟩
  next => simp [Session.outlook, retry, Source.renew, Phase.outlook, same.2]

section Giving

variable {entryId : Value} {payload : Entries String Value} {rest : List Entry}

theorem advances_give (live : intake.session.source.Live)
    (holding : intake.session.source.phase = .holding entryId payload rest)
    (clocked : ¬ Event.StatesBeyondClocks (.mapping payload))
    (within : ¬ intake.worker.OutreachesCalendar now (.mapping payload)) :
    intake.session.Advances (intake.give now payload).session [.handed entryId payload] := by
  obtain ⟨connected, opened, -⟩ := live
  have passed := (intake.worker.isPassedOver_handle now (.mapping payload)).mpr ⟨clocked, within⟩
  simp only [give, passed, if_true, Session.tell, Source.resume, holding,
    Source.ifConnected_live connected]
  refine .of_source ⟨connected, opened, by simp⟩ ⟨rfl, rfl⟩ ?_ ?_
  next => simp [holding, Phase.outlook, clocked]
  next => simp [holding, Phase.work]

theorem give_interrupted (live : intake.session.source.Live)
    (holding : intake.session.source.phase = .holding entryId payload rest)
    (stopped : ¬ Plant.isPassedOver (intake.worker.handle now (.mapping payload)).2 = true) :
    intake.session.Proceeds (intake.give now payload).session ∧
      (intake.give now payload).session.outlook =
        intake.session.script.reads.flatMap fun outcome => dealt outcome.entries := by
  have long : 3 < intake.session.source.phase.work := by
    simp only [holding, Phase.work]
    omega
  simp only [give, stopped, Bool.false_eq_true, if_false]
  exact advances_retry _ live ⟨rfl, rfl⟩ long

end Giving

theorem advances_step (live : intake.session.source.Live) (within : ¬ intake.Outreaches now) :
    intake.session.Advances (intake.step now).session intake.session.source.phase.deeds := by
  -- One case for each thing that a source may be waiting for.
  dsimp only [step]
  cases phase : intake.session.source.phase with
  | idle => exact Session.advances_pulled live phase
  | grouping => exact Session.advances_group live phase
  | reading => exact Session.advances_read live phase
  | pausing => exact Session.advances_rested live phase _
  | acking entryId rest => exact Session.advances_ack live phase
  | failed fault =>
    have long : 3 < intake.session.source.phase.work := by simp [phase, Phase.work]
    obtain ⟨proceeds, outlook⟩ := intake.advances_retry live ⟨rfl, rfl⟩ long
    refine ⟨proceeds, ?_⟩
    rw [outlook]
    simp [Session.outlook, phase, Phase.outlook, Phase.deeds]
  | ended => exact absurd phase live.going
  | holding entryId payload rest =>
    by_cases stated : Event.StatesBeyondClocks (.mapping payload)
    next =>
      have stopped := mt (intake.worker.isPassedOver_handle now (.mapping payload)).mp
        fun clear => clear.1 stated
      obtain ⟨proceeds, outlook⟩ := give_interrupted live phase stopped
      refine ⟨proceeds, ?_⟩
      rw [outlook]
      simp [Session.outlook, phase, Phase.outlook, Phase.deeds, stated]
    next =>
      exact advances_give live phase stated fun outreaches =>
        within ⟨entryId, payload, rest, phase, outreaches⟩

theorem step_outreaching (live : intake.session.source.Live) (outreaches : intake.Outreaches now) :
    intake.session.Proceeds (intake.step now).session ∧
      (intake.session.source.phase.deeds ++ (intake.step now).session.outlook).length <
        intake.session.outlook.length := by
  obtain ⟨entryId, payload, rest, holding, outreaches⟩ := outreaches
  -- The payload was evaluated, so that it is not its time stamp that stops the consumer.
  have clocked : ¬ Event.StatesBeyondClocks (.mapping payload) := by
    intro stated
    obtain ⟨event, alerts, read, -⟩ := outreaches
    obtain ⟨fault, unread, -⟩ := (Event.ofPayload_beyond now (.mapping payload)).mpr stated
    rw [read] at unread
    cases unread
  have stopped := mt (intake.worker.isPassedOver_handle now (.mapping payload)).mp
    fun clear => clear.2 outreaches
  obtain ⟨proceeds, outlook⟩ := give_interrupted live holding stopped
  simp only [step, holding]
  refine ⟨proceeds, ?_⟩
  rw [outlook]
  simp only [Session.outlook, holding, Phase.outlook, Phase.deeds, clocked,
    if_false, List.length_append, List.length_cons, List.length_nil]
  omega

theorem step_proceeds (live : intake.session.source.Live) (now : Moment) :
    intake.session.Proceeds (intake.step now).session := by
  by_cases outreaches : intake.Outreaches now
  next => exact (step_outreaching live outreaches).1
  next => exact (advances_step live outreaches).toProceeds

theorem step_ended (ended : intake.session.source.phase = .ended) (now : Moment) :
    intake.step now = intake := by
  simp [step, ended]

theorem step_sound (sound : intake.session.Sound) (now : Moment) :
    (intake.step now).session.Sound := by
  cases sound with
  | inl live => exact (step_proceeds live now).sound
  | inr finished =>
    rw [step_ended finished.1]
    exact .inr finished

theorem run_sound (sound : intake.session.Sound) (clock : List Moment) :
    (intake.run clock).session.Sound := by
  induction clock generalizing intake with
  | nil => exact sound
  | cons now later ih => exact ih (step_sound sound now)

theorem run_ended (ended : intake.session.source.phase = .ended) (clock : List Moment) :
    intake.run clock = intake := by
  induction clock with
  | nil => rfl
  | cons now later ih =>
    simp only [run, List.foldl_cons, step_ended ended]
    exact ih

theorem run_ends (sound : intake.session.Sound) (willing : intake.session.script.Willing)
    {clock : List Moment} (long : intake.session.work <= clock.length) :
    (intake.run clock).session.source.phase = .ended := by
  -- Each time that the clock shows takes at least one off the work.
  induction clock generalizing intake with
  | nil =>
    have still : intake.session.source.phase.work = 0 := by
      simp only [Session.work, List.length_nil] at long
      omega
    cases phase : intake.session.source.phase with
    | ended => exact phase
    | _ => simp [phase, Phase.work] at still
  | cons now later ih =>
    cases sound with
    | inl live =>
      have next := step_proceeds live now
      have less := next.work willing
      rw [List.length_cons] at long
      exact ih next.sound (by rw [Script.Willing, next.refusal]; exact willing) (by omega)
    | inr finished => rw [run_ended finished.1]; exact finished.1

theorem run_outlook (sound : intake.session.Sound) {clock : List Moment}
    (within : intake.StaysWithin clock) :
    intake.session.outlook = intake.deeds clock ++ (intake.run clock).session.outlook := by
  induction clock generalizing intake with
  | nil => rfl
  | cons now later ih =>
    have rest := ih (step_sound sound now) within.2
    cases sound with
    | inl live =>
      rw [(advances_step live within.1).outlook, rest, deeds, List.append_assoc]
      rfl
    | inr finished =>
      rw [step_ended finished.1] at rest
      rw [deeds, finished.1, step_ended finished.1]
      simpa [run, step_ended finished.1, Phase.deeds] using rest

theorem run_outreaching (sound : intake.session.Sound) {clock : List Moment}
    (outreaches : ¬ intake.StaysWithin clock) :
    (intake.deeds clock ++ (intake.run clock).session.outlook).length <
      intake.session.outlook.length := by
  induction clock generalizing intake with
  | nil => exact absurd trivial outreaches
  | cons now later ih =>
    have rest := step_sound sound now
    have ahead : ((intake.step now).deeds later ++
        ((intake.step now).run later).session.outlook).length <=
          (intake.step now).session.outlook.length := by
      -- The first payload to find the rate window outside decides, not those after it.
      by_cases within : (intake.step now).StaysWithin later
      next => exact Nat.le_of_eq (congrArg _ (run_outlook rest within).symm)
      next => exact Nat.le_of_lt (ih rest within)
    have parted : intake.deeds (now :: later) ++ (intake.run (now :: later)).session.outlook =
        intake.session.source.phase.deeds ++ ((intake.step now).deeds later ++
          ((intake.step now).run later).session.outlook) := List.append_assoc ..
    rw [parted, List.length_append]
    by_cases first : intake.Outreaches now
    next =>
      cases sound with
      | inl live =>
        have less := (step_outreaching live first).2
        simp only [List.length_append] at less
        omega
      | inr finished =>
        obtain ⟨entryId, payload, others, holding, -⟩ := first
        rw [finished.1] at holding
        cases holding
    next =>
      have less := ih rest fun within => outreaches ⟨first, within⟩
      cases sound with
      | inl live =>
        have same := congrArg List.length (advances_step live first).outlook
        rw [List.length_append] at same
        omega
      | inr finished =>
        rw [step_ended finished.1] at less ⊢
        simpa [finished.1, Phase.deeds] using less

theorem step_received (intake : Intake) (now : Moment) :
    (intake.step now).session.received.map Prod.fst =
      intake.session.received.map Prod.fst ++
        intake.session.source.phase.deeds.filterMap Deed.payload? := by
  dsimp only [step]
  cases intake.session.source.phase with
  | grouping => simp [intake.session.answerGroup_kept.1, Phase.deeds]
  | reading => simp [intake.session.answerRead_kept.1, Phase.deeds]
  | acking entryId rest =>
    simp [(intake.session.answerAck_kept entryId).1, Phase.deeds, Deed.payload?]
  | holding entryId payload rest =>
    simp only [give, Phase.deeds]
    split <;> simp [Session.tell, retry, Deed.payload?]
  | _ => simp [Session.tell, retry, Phase.deeds]

theorem run_received (intake : Intake) (clock : List Moment) :
    (intake.run clock).session.received.map Prod.fst =
      intake.session.received.map Prod.fst ++
        (intake.deeds clock).filterMap Deed.payload? := by
  induction clock generalizing intake with
  | nil => simp [run, deeds]
  | cons now later ih =>
    have rest := ih (intake.step now)
    rw [step_received, List.append_assoc, <- List.filterMap_append] at rest
    exact rest

theorem step_acked (intake : Intake) (now : Moment) :
    let tried := intake.session.source.phase.deeds.filterMap Deed.acknowledged?
    (intake.step now).session.acked =
        intake.session.acked ++ tried.drop intake.session.script.failingAcks ∧
      (intake.step now).session.script.failingAcks =
        intake.session.script.failingAcks - tried.length := by
  dsimp only [step]
  cases intake.session.source.phase with
  | grouping => simp [intake.session.answerGroup_kept.2, Phase.deeds]
  | reading => simp [intake.session.answerRead_kept.2, Phase.deeds]
  | acking entryId rest =>
    simp [(intake.session.answerAck_kept entryId).2, Phase.deeds, Deed.acknowledged?]
  | holding entryId payload rest =>
    simp only [give, Phase.deeds]
    split <;> simp [Session.tell, retry, List.filterMap_cons, Deed.acknowledged?]
  | _ => simp [Session.tell, retry, Phase.deeds]

theorem run_acked (intake : Intake) (clock : List Moment) :
    (intake.run clock).session.acked =
      intake.session.acked ++
        ((intake.deeds clock).filterMap Deed.acknowledged?).drop
          intake.session.script.failingAcks := by
  induction clock generalizing intake with
  | nil => simp [run, deeds]
  | cons now later ih =>
    obtain ⟨acked, failing⟩ := intake.step_acked now
    have rest := ih (intake.step now)
    rw [acked, failing, List.append_assoc, <- List.drop_append, <- List.filterMap_append] at rest
    exact rest

theorem step_settings (intake : Intake) (now : Moment) :
    (intake.step now).worker.settings = intake.worker.settings := by
  dsimp only [step]
  cases intake.session.source.phase with
  | holding entryId payload rest =>
    have same := intake.worker.handle_settings now (.mapping payload)
    simp only [give]
    split <;> exact same
  | _ => rfl

theorem staysWithin {clock : List Moment}
    (late : ∀ now ∈ clock, inCalendar (now.wall - intake.worker.settings.rateWindow) = true) :
    intake.StaysWithin clock := by
  induction clock generalizing intake with
  | nil => trivial
  | cons now later ih =>
    obtain ⟨lateFirst, lateRest⟩ := List.forall_mem_cons.mp late
    refine ⟨?_, ih (by rwa [step_settings])⟩
    rintro ⟨entryId, payload, rest, -, event, alerts, -, -, outside⟩
    rw [lateFirst] at outside
    cases outside

theorem start_sound (script : Script) (worker : Worker) :
    (start script worker).session.Sound :=
  .inl ⟨rfl, rfl, by simp [start, Session.start, Source.start]⟩

theorem start_outlook (script : Script) (worker : Worker) :
    (start script worker).session.outlook =
      (script.reads.map ReadOutcome.entries).flatMap dealt := by
  rw [List.flatMap_map]
  rfl

theorem outlook_ended {session : Session} (sound : session.Sound)
    (ended : session.source.phase = .ended) : session.outlook = [] := by
  cases sound with
  | inl live => exact absurd ended live.going
  | inr finished => simp [Session.outlook, ended, finished.2, Phase.outlook]

/-- What a run makes of a stream: what it hands on the worker is given, what it tries to acknowledge
is acknowledged but for the first failures, and it ends if its group can be made. Once it has ended
every entry of every batch was dealt with, once and in order, exactly if no entry interrupted its
batch and the rate window never reached back before the calendar. Of depths only that counts which
cannot be read; a lesser one at which a copy runs out of stack is left out, as in
`Event.ofPayload`. -/
theorem dealt_with_iff (script : Script) (worker : Worker) (clock : List Moment) :
    let intake := start script worker
    let batches := script.reads.map ReadOutcome.entries
    let done := intake.deeds clock
    let reached := (intake.run clock).session
    reached.received.map Prod.fst = done.filterMap Deed.payload? ∧
    reached.acked = (done.filterMap Deed.acknowledged?).drop script.failingAcks ∧
    (script.Willing -> intake.session.work <= clock.length -> reached.source.phase = .ended) ∧
    (intake.StaysWithin clock -> done <+: batches.flatMap dealt) ∧
    (reached.source.phase = .ended ->
      (intake.StaysWithin clock -> done = batches.flatMap dealt) ∧
      (done = batches.flatten.flatMap Entry.due ↔
        (∀ batch ∈ batches, ∀ entry ∈ batch, ¬ entry.Interrupts) ∧
          intake.StaysWithin clock)) := by
  intro intake batches done reached
  have sound : intake.session.Sound := start_sound script worker
  have expected : intake.session.outlook = batches.flatMap dealt := start_outlook script worker
  have within : intake.StaysWithin clock -> batches.flatMap dealt = done ++ reached.outlook := by
    intro within
    rw [<- expected, run_outlook sound within]
  refine ⟨run_received intake clock, run_acked intake clock,
    fun willing => run_ends sound willing, fun stays => ⟨_, (within stays).symm⟩, fun ended => ?_⟩
  have nothing : reached.outlook = [] := outlook_ended (run_sound sound clock) ended
  have whole : intake.StaysWithin clock -> done = batches.flatMap dealt := by
    intro stays
    rw [within stays, nothing, List.append_nil]
  refine ⟨whole, ?_, ?_⟩
  next =>
    intro complete
    -- Were it not to stay within, it would do less than is made of the batches, which is at most
    -- what is due.
    by_cases stays : intake.StaysWithin clock
    next => exact ⟨(dealt_eq_due_iff batches).mp ((whole stays).symm.trans complete), stays⟩
    next =>
      have less := run_outreaching sound stays
      have most := flatMap_dealt_length_le batches
      rw [expected, List.length_append] at less
      have same : (intake.deeds clock).length = (batches.flatten.flatMap Entry.due).length :=
        congrArg List.length complete
      omega
  next =>
    intro clear
    exact (whole clear.2).trans ((dealt_eq_due_iff batches).mpr clear.1)

theorem dealt_with_iff_undecodable :
    let payload : Entries String Value := [("device_id", .text "d2"), ("value", .int 5)]
    let script : Script :=
      { reads := [.batch
          [{ entryId := .text "1-0", fields := .mapping [("data", .text "nonsense")] },
            { entryId := .text "2-0"
              fields := .mapping [("device_id", .text "d2"), ("value", .text "5")] }]]
        refusal := none, failingAcks := 0 }
    (start script .fresh).deeds (List.replicate 11 (universal 0)) =
      [.acked (.text "1-0"), .handed (.text "2-0") payload, .acked (.text "2-0")] := by
  intro payload script
  have run := dealt_with_iff script .fresh (List.replicate 11 (universal 0))
  obtain ⟨-, -, ends, -, complete⟩ := run
  have ended := ends (by simp [Script.Willing, script]) (by decide)
  have calm : ∀ batch ∈ script.reads.map ReadOutcome.entries, ∀ entry ∈ batch,
      ¬ entry.Interrupts := by decide +kernel
  have late : ∀ now ∈ List.replicate 11 (universal 0),
      inCalendar (now.wall - Worker.fresh.settings.rateWindow) = true := by decide +kernel
  rw [(complete ended).2.mpr ⟨calm, staysWithin late⟩]
  rfl

def wrapping (content : String) : Script :=
  { reads := [.batch
      [{ entryId := .text "1-0", fields := .mapping [("data", .text content)] },
        { entryId := .text "2-0"
          fields := .mapping [("device_id", .text "d2"), ("value", .text "5")] }]]
    refusal := none
    failingAcks := 0 }

theorem lost_deep {content : String} {rest : List Char}
    (opened : content.toList = List.replicate (Json.deepest + 1) '[' ++ rest) :
    let batches := (wrapping content).reads.map ReadOutcome.entries
    let intake := start (wrapping content) .fresh
    let clock := List.replicate 11 (universal 0)
    (intake.run clock).session.source.phase = .ended ∧ intake.deeds clock = [] ∧
      intake.deeds clock ≠ batches.flatten.flatMap Entry.due := by
  intro batches intake clock
  have deep : decodeValue (.mapping [("data", .text content)]) =
      .error (.unreadable .tooDeep) := decodeValue_deep rfl opened
  have expected : intake.session.outlook = [] := by
    rw [start_outlook]
    simp [wrapping, ReadOutcome.entries, dealt, deep, EntryFault.isFatal]
  have sound : intake.session.Sound := start_sound _ _
  have late : ∀ now ∈ clock, inCalendar (now.wall - Worker.fresh.settings.rateWindow) = true := by
    decide +kernel
  have done := run_outlook sound (staysWithin late)
  rw [expected] at done
  have nothing : intake.deeds clock = [] := (List.append_eq_nil_iff.mp done.symm).1
  have willing : (wrapping content).Willing := fun refusal refused => by cases refused
  refine ⟨run_ends sound willing (Nat.le_refl 11), nothing, ?_⟩
  rw [nothing]
  simp [batches, wrapping, ReadOutcome.entries, Entry.due, deep]

theorem lost_tooDeep :
    let script := wrapping (String.ofList (List.replicate 2000 '['))
    let batches := script.reads.map ReadOutcome.entries
    let intake := start script .fresh
    let clock := List.replicate 11 (universal 0)
    (intake.run clock).session.source.phase = .ended ∧ intake.deeds clock = [] ∧
      intake.deeds clock ≠ batches.flatten.flatMap Entry.due := by
  have opened : (String.ofList (List.replicate 2000 '[')).toList =
      List.replicate (Json.deepest + 1) '[' ++ List.replicate 1009 '[' := by
    have count : 2000 = Json.deepest + 1 + 1009 := rfl
    rw [String.toList_ofList, count, <- List.replicate_append_replicate]
  exact lost_deep opened

end Stream.Intake

end SensorAlerting
