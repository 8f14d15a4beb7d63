import SensorAlerting.Proofs.RuleStore.Histories

set_option autoImplicit false

/-!
Batches of rules that are offered to a store. Each offer is taken or rejected on its own, and a
rejected one leaves no trace but its entry in the report. A batch ends early only at an offer that
cannot be judged at all.
-/

namespace SensorAlerting.RuleStore

open SensorAlerting.Number SensorAlerting.Time

abbrev Given := Moment × Offer

def Given.isJudgeable (given : Given) : Bool := (unjudged? given.2.definition).isNone

def Given.entry (given : Given) (rejection : Rejection) : Value × String :=
  (given.2.label, rejection.message)

/-- What becomes of the items of a batch, one after another: those that are accepted, those that are
rejected, and the store in the end. -/
inductive Taken : RuleStore -> List Given -> List Given -> List (Given × Rejection) -> RuleStore ->
    Prop where
  | done (store : RuleStore) : Taken store [] [] [] store
  | accepted {store next last : RuleStore} {given : Given} {later accepted : List Given}
      {refused : List (Given × Rejection)} {rule : Rule}
      (taken : store.accept given.1 given.2 = .ok (rule, next))
      (rest : Taken next later accepted refused last) :
      Taken store (given :: later) (given :: accepted) refused last
  | refused {store last : RuleStore} {given : Given} {later accepted : List Given}
      {refused : List (Given × Rejection)} {rejection : Rejection}
      (rejected : store.accept given.1 given.2 = .error (.rejected rejection))
      (rest : Taken store later accepted refused last) :
      Taken store (given :: later) accepted ((given, rejection) :: refused) last

def acceptAll (store : RuleStore) (batch : List Given) : Except StoreFault RuleStore :=
  batch.foldlM (fun store given => (store.accept given.1 given.2).map Prod.snd) store

def reportWith (report : ImportReport) (accepted : List Given)
    (refused : List (Given × Rejection)) : ImportReport :=
  { imported := report.imported + accepted.length
    failed := report.failed + refused.length
    errors := report.errors ++ refused.map fun entry => entry.1.entry entry.2 }

namespace Taken

variable {store last : RuleStore} {batch accepted : List Given}
  {refused : List (Given × Rejection)}

theorem length (taken : Taken store batch accepted refused last) :
    accepted.length + refused.length = batch.length := by
  induction taken with
  | done => rfl
  | accepted _ _ ih =>
    simp only [List.length_cons]
    omega
  | refused _ _ ih =>
    simp only [List.length_cons]
    omega

theorem acceptAll (taken : Taken store batch accepted refused last) :
    store.acceptAll accepted = .ok last := by
  induction taken with
  | done => rfl
  | accepted taken _ ih =>
    rw [RuleStore.acceptAll, List.foldlM_cons, taken]
    exact ih
  | refused _ _ ih => exact ih

end Taken

section Batches

variable {store : RuleStore}

theorem add_of_not_ok {now : Moment} {definition : Value} {fault : StoreFault}
    (failed : store.add now definition = .error fault) :
    ∃ rejection, fault = .rejected rejection := by
  unfold add at failed
  split at failed
  next => cases failed
  next rejection _ => exact ⟨rejection, (Except.error.inj failed).symm⟩

theorem accept_judgeable (store : RuleStore) {given : Given}
    (judgeable : given.isJudgeable = true) :
    (∃ stored, store.accept given.1 given.2 = .ok stored) ∨
      ∃ rejection, store.accept given.1 given.2 = .error (.rejected rejection) := by
  have judged : unjudged? given.2.definition = none := Option.isNone_iff_eq_none.mp judgeable
  rw [accept, judged]
  dsimp only
  cases added : store.add given.1 given.2.definition with
  | ok stored => exact .inl ⟨stored, rfl⟩
  | error fault =>
    obtain ⟨rejection, rfl⟩ := add_of_not_ok added
    exact .inr ⟨rejection, rfl⟩

theorem takeOffers_accepted {next : RuleStore} {given : Given} {rule : Rule}
    (taken : store.accept given.1 given.2 = .ok (rule, next)) (report : ImportReport)
    (later : List Given) :
    store.takeOffers report (given :: later) =
      next.takeOffers (reportWith report [given] []) later := by
  rw [takeOffers, taken]
  simp [reportWith]

theorem takeOffers_refused {given : Given} {rejection : Rejection}
    (rejected : store.accept given.1 given.2 = .error (.rejected rejection))
    (report : ImportReport) (later : List Given) :
    store.takeOffers report (given :: later) =
      store.takeOffers (reportWith report [] [(given, rejection)]) later := by
  rw [takeOffers, rejected]
  rfl

theorem reportWith_append (report : ImportReport) (accepted more : List Given)
    (refused others : List (Given × Rejection)) :
    reportWith (reportWith report accepted refused) more others =
      reportWith report (accepted ++ more) (refused ++ others) := by
  simp [reportWith, Nat.add_assoc]

theorem takeOffers_judgeable (store : RuleStore) {batch : List Given}
    (judgeable : ∀ given ∈ batch, given.isJudgeable = true) (report : ImportReport) :
    ∃ accepted refused, Taken store batch accepted refused (store.takeOffers report batch).1 ∧
      (store.takeOffers report batch).2 = .ok (reportWith report accepted refused) := by
  -- The report so far goes through the loop, so that it is arbitrary here.
  induction batch generalizing store report with
  | nil => exact ⟨[], [], .done store, by simp [takeOffers, reportWith]⟩
  | cons given later ih =>
    obtain ⟨first, others⟩ := List.forall_mem_cons.mp judgeable
    obtain ⟨⟨rule, next⟩, taken⟩ | ⟨rejection, rejected⟩ := accept_judgeable store first
    next =>
      rw [takeOffers_accepted taken]
      obtain ⟨accepted, refused, rest, told⟩ := ih next others (reportWith report [given] [])
      refine ⟨given :: accepted, refused, .accepted taken rest, ?_⟩
      rw [told, reportWith_append]
      rfl
    next =>
      rw [takeOffers_refused rejected]
      obtain ⟨accepted, refused, rest, told⟩ :=
        ih store others (reportWith report [] [(given, rejection)])
      refine ⟨accepted, (given, rejection) :: refused, .refused rejected rest, ?_⟩
      rw [told, reportWith_append]
      rfl

theorem takeOffers_unjudged (store : RuleStore) {before : List Given} {given : Given}
    {misuse : Misuse}
    (judgeable : ∀ given ∈ before, given.isJudgeable = true)
    (unjudged : unjudged? given.2.definition = some misuse) (later : List Given)
    (report : ImportReport) :
    store.takeOffers report (before ++ given :: later) =
      ((store.takeOffers report before).1, .error (.misuse misuse)) := by
  induction before generalizing store report with
  | nil =>
    have failed : store.accept given.1 given.2 = .error (.misuse misuse) := by
      simp [accept, unjudged]
    have ends : store.takeOffers report (given :: later) = (store, .error (.misuse misuse)) := by
      rw [takeOffers, failed]
    exact ends
  | cons first rest ih =>
    obtain ⟨judged, others⟩ := List.forall_mem_cons.mp judgeable
    rw [List.cons_append]
    obtain ⟨⟨rule, next⟩, taken⟩ | ⟨rejection, rejected⟩ :=
      accept_judgeable store judged
    next =>
      rw [takeOffers_accepted taken, takeOffers_accepted taken]
      exact ih next others _
    next =>
      rw [takeOffers_refused rejected, takeOffers_refused rejected]
      exact ih store others _

end Batches

theorem isJudgeable_eq {given : Given} (textKeys : hasForeignKeys given.2.definition = false) :
    given.isJudgeable = !hasUnshownCondition given.2.definition := by
  rw [Given.isJudgeable, unjudged?, textKeys]
  cases hasUnshownCondition given.2.definition <;> rfl

section Imports

variable {batch : List Given}
  (textKeys : ∀ given ∈ batch, hasForeignKeys given.2.definition = false)

include textKeys

theorem importOffers_shown (store : RuleStore)
    (shown : ∀ given ∈ batch, hasUnshownCondition given.2.definition = false) :
    ∃ accepted refused, Taken store batch accepted refused (store.importOffers batch).1 ∧
      (store.importOffers batch).2 = .ok
        { imported := accepted.length
          failed := refused.length
          errors := refused.map fun entry => entry.1.entry entry.2 } := by
  have judgeable : ∀ given ∈ batch, given.isJudgeable = true := by
    intro given member
    rw [isJudgeable_eq (textKeys given member), shown given member]
    rfl
  obtain ⟨accepted, refused, taken, told⟩ := takeOffers_judgeable store judgeable
    { imported := 0, failed := 0, errors := [] }
  refine ⟨accepted, refused, taken, told.trans ?_⟩
  simp [reportWith]

theorem importOffers_unshown (store : RuleStore)
    (unshown : ∃ given ∈ batch, hasUnshownCondition given.2.definition = true) :
    ∃ before given later, batch = before ++ given :: later ∧
      (∀ earlier ∈ before, hasUnshownCondition earlier.2.definition = false) ∧
      hasUnshownCondition given.2.definition = true ∧
      store.importOffers batch =
        ((store.importOffers before).1, .error (.misuse .impossible)) := by
  obtain ⟨given, first⟩ := Option.isSome_iff_exists.mp (List.find?_isSome.mpr unshown)
  obtain ⟨isUnshown, before, later, rfl, shown⟩ := List.find?_eq_some_iff_append.mp first
  have earlier : ∀ given ∈ before, hasUnshownCondition given.2.definition = false := by
    simpa using shown
  have judgeable : ∀ given ∈ before, given.isJudgeable = true := by
    intro given member
    rw [isJudgeable_eq (textKeys given (List.mem_append_left _ member)), earlier given member]
    rfl
  have unjudged : unjudged? given.2.definition = some .impossible := by
    simpa [unjudged?] using isUnshown
  exact ⟨before, given, later, rfl, earlier, isUnshown,
    takeOffers_unjudged store judgeable unjudged later _⟩

end Imports

/-- Importing a batch of offers whose keys are texts comes to its end exactly if each condition can
be shown. Then every item is accepted or rejected in its turn, the report has their numbers and one
entry for each rejected item in order, and the store is the one to which the accepted items have
been added one by one; a rejected item leaves it as it was. Otherwise the import fails at the first
item whose condition cannot be shown, and what was stored before it stays. -/
theorem importOffers_complete_iff (store : RuleStore) (batch : List Given)
    (textKeys : ∀ given ∈ batch, hasForeignKeys given.2.definition = false) :
    let unshown := fun given : Given => hasUnshownCondition given.2.definition
    let ended := store.importOffers batch
    ((∃ report, ended.2 = .ok report) ↔ ∀ given ∈ batch, unshown given = false) ∧
      (∀ report, ended.2 = .ok report ->
        ∃ accepted refused, Taken store batch accepted refused ended.1 ∧
          report.imported = accepted.length ∧ report.failed = refused.length ∧
          report.imported + report.failed = batch.length ∧
          report.errors = refused.map (fun entry => entry.1.entry entry.2) ∧
          store.acceptAll accepted = .ok ended.1) ∧
      ∀ fault, ended.2 = .error fault ->
        ∃ before given later, batch = before ++ given :: later ∧
          (∀ earlier ∈ before, unshown earlier = false) ∧ unshown given = true ∧
          fault = .misuse .impossible ∧ ended.1 = (store.importOffers before).1 := by
  intro unshown ended
  by_cases all : ∀ given ∈ batch, unshown given = false
  next =>
    obtain ⟨accepted, refused, taken, told⟩ := importOffers_shown textKeys store all
    refine ⟨⟨fun _ => all, fun _ => ⟨_, told⟩⟩, ?_, ?_⟩
    next =>
      intro report isReport
      obtain rfl := Except.ok.inj (told.symm.trans isReport)
      exact ⟨accepted, refused, taken, rfl, rfl, taken.length, rfl, taken.acceptAll⟩
    next =>
      intro fault failed
      cases told.symm.trans failed
  next =>
    obtain ⟨before, given, later, parts, earlier, isUnshown, ends⟩ :=
      importOffers_unshown textKeys store (by simpa using all)
    have failed : ended.2 = .error (.misuse .impossible) := congrArg Prod.snd ends
    refine ⟨⟨?_, fun shown => absurd shown all⟩, ?_, ?_⟩
    next =>
      rintro ⟨report, told⟩
      cases failed.symm.trans told
    next =>
      intro report told
      cases failed.symm.trans told
    next =>
      intro fault told
      refine ⟨before, given, later, parts, earlier, isUnshown,
        (Except.error.inj (failed.symm.trans told)).symm, ?_⟩
      rw [show ended = _ from ends]

section Examples

def plainRule (ruleId condition : String) (more : List (String × Value)) : Value :=
  .mapping ([("rule_id", .text ruleId), ("condition", .text condition),
    ("severity", .text "info")] ++ more)

def mixedBatch : List Given :=
  [(universal 0, .data (plainRule "hot" "value > 30" [])),
    (universal 1, .data (.int 5)),
    (universal 2, .data (plainRule "" "value is high" [("id", .text "hot")])),
    (universal 3, .data (plainRule "hot" "value > 35" [("throttle_minutes", .float (0 / 0))])),
    (universal 4, .data (plainRule "hot" "value > 40" []))]

theorem importOffers_complete_mixed :
    (∀ given ∈ mixedBatch, hasForeignKeys given.2.definition = false) ∧
      ∃ report accepted refused, (RuleStore.empty.importOffers mixedBatch).2 = .ok report ∧
        Taken .empty mixedBatch accepted refused (RuleStore.empty.importOffers mixedBatch).1 ∧
        report.imported = 2 ∧ report.failed = 3 ∧
        RuleStore.empty.acceptAll accepted = .ok (RuleStore.empty.importOffers mixedBatch).1 ∧
        (RuleStore.empty.importOffers mixedBatch).1.ids = ["hot"] := by
  have textKeys : ∀ given ∈ mixedBatch, hasForeignKeys given.2.definition = false := by decide
  obtain ⟨returns, told, -⟩ := importOffers_complete_iff .empty mixedBatch textKeys
  obtain ⟨report, isReport⟩ := returns.mpr (by decide +kernel)
  obtain ⟨accepted, refused, taken, imported, failed, all, -, added⟩ := told report isReport
  have counted : report.imported = 2 := by
    have computed : ((RuleStore.empty.importOffers mixedBatch).2.toOption.map
        ImportReport.imported) = some 2 := by decide +kernel
    rw [isReport] at computed
    exact Option.some.inj computed
  refine ⟨textKeys, report, accepted, refused, isReport, taken, counted, ?_, added, ?_⟩
  next =>
    rw [counted] at all
    exact Nat.add_left_cancel all
  next => decide +kernel

/-- A condition that is a number of more digits than can be shown makes the whole batch fail, where
each item should be accepted or rejected. -/
theorem import_fails_unshown :
    let shown : Given := (universal 0, .data (plainRule "a" "value > 5" []))
    let unshown : Given := (universal 0, .data (.mapping [("rule_id", .text "b"),
      ("condition", .int (Nat.pow 10 digitLimit)), ("severity", .text "info")]))
    let ended := RuleStore.empty.importOffers [shown, unshown, shown]
    (∀ given ∈ [shown, unshown, shown], hasForeignKeys given.2.definition = false) ∧
      ended.2 = .error (.misuse .impossible) ∧ ended.1.ids = ["a"] := by
  intro shown unshown ended
  have judgeable : ∀ given ∈ [shown], given.isJudgeable = true := by decide +kernel
  have unjudged : unjudged? unshown.2.definition = some .impossible := by decide +kernel
  have ends : ended = _ := takeOffers_unjudged .empty judgeable unjudged [shown]
    { imported := 0, failed := 0, errors := [] }
  have keyed : ∀ given ∈ [shown, unshown, shown],
      hasForeignKeys given.2.definition = false := by
    simp only [List.mem_cons, List.not_mem_nil, or_false, forall_eq_or_imp, forall_eq]
    exact ⟨rfl, rfl, rfl⟩
  refine ⟨keyed, ?_, ?_⟩
  next => rw [ends]
  next =>
    rw [ends]
    decide +kernel

end Examples

end SensorAlerting.RuleStore
