import SensorAlerting.Proofs.Check.Outcomes
import SensorAlerting.Proofs.RuleStore.Batches

set_option autoImplicit false

/-!
What a store says to a rule, and how far that depends on the rules which are stored already. The one
thing that a rule takes from the store before it is checked is the time at which the rule that it
replaces was created.
-/

namespace SensorAlerting

open SensorAlerting.Number SensorAlerting.Time SensorAlerting.Rule.Definition

namespace Rule

/-- A rule but for its times, which are read last. -/
def untimed (fields : Entries String Value) : Checked (Moment -> Moment -> Rule) :=
  Rule.build <$> Check.required fields "rule_id" Check.someText <*>
    Check.defaulted fields "sensor_type" none (Check.optional Check.text) <*>
    Check.defaulted fields "device_id" none (Check.optional Check.text) <*>
    Check.required fields "condition" Check.someText <*>
    Check.required fields "severity" (Check.oneOf Severity.choices) <*>
    Check.defaulted fields "channels" [] (Check.sequenceOf Check.text) <*>
    Check.defaulted fields "throttle_minutes" none (fun value =>
      some <$> Check.numberFrom 0 value) <*>
    Check.defaulted fields "enabled" true Check.flag <*>
    Check.defaulted fields "description" none (Check.optional Check.text)

def creationFaults (now : Moment) (fields : Entries String Value) : Option (List Check.Fault) :=
  (Check.defaulted fields "created_at" now Check.moment).outcome

theorem untimed_congr {fields others : Entries String Value}
    (same : ∀ name, name ≠ "created_at" -> name ≠ "updated_at" ->
      Entries.get? fields name = Entries.get? others name) :
    untimed fields = untimed others := by
  simp only [untimed, Check.required, Check.defaulted]
  rw [same "rule_id" (by decide) (by decide), same "sensor_type" (by decide) (by decide),
    same "device_id" (by decide) (by decide), same "condition" (by decide) (by decide),
    same "severity" (by decide) (by decide), same "channels" (by decide) (by decide),
    same "throttle_minutes" (by decide) (by decide), same "enabled" (by decide) (by decide),
    same "description" (by decide) (by decide)]

/-- Where the time of change is set and no field is unknown, only the time of creation is left to
add to the faults in the rest. -/
theorem ofFields_outcome {now changed : Moment} {fields : Entries String Value}
    (known : Check.unknown fields fieldNames = [])
    (updated : Entries.get? fields "updated_at" = some (.moment changed)) :
    (ofFields now fields).outcome =
      Checked.both (untimed fields).outcome (creationFaults now fields) := by
  have timely : (Check.defaulted fields "updated_at" now Check.moment).outcome = none := by
    rw [Check.defaulted, updated]
    rfl
  rw [ofFields, known, Checked.outcome_also_nil, Checked.outcome_seq, Checked.outcome_seq, timely,
    Checked.both_none]
  rfl

end Rule

namespace RuleStore

section Stamped

variable (existing : Option Rule) (now : Moment) {fields : Entries String Value}

theorem get?_stampTimes_other (fields : Entries String Value) {name : String}
    (noTime : name ≠ "created_at") (noOther : name ≠ "updated_at") :
    Entries.get? (stampTimes existing now fields) name = Entries.get? fields name := by
  rw [stampTimes.eq_def, Entries.get?_put_other _ _ noOther.symm]
  cases existing with
  | some old => exact Entries.get?_put_other _ _ noTime.symm
  | none =>
    dsimp only
    split
    next => rfl
    next => exact Entries.get?_put_other _ _ noTime.symm

theorem get?_stampFields_channels (other : Option Rule) (later : Moment)
    (fields : Entries String Value) :
    Entries.get? (stampFields existing now fields) "channels" =
      Entries.get? (stampFields other later fields) "channels" := by
  have kept : Entries.get? (stampTimes existing now fields) "channels" =
      Entries.get? fields "channels" :=
    get?_stampTimes_other existing now fields (by decide) (by decide)
  have keptToo : Entries.get? (stampTimes other later fields) "channels" =
      Entries.get? fields "channels" :=
    get?_stampTimes_other other later fields (by decide) (by decide)
  unfold stampFields
  dsimp only
  rw [kept, keptToo]
  split
  next => simp [Entries.get?_remove]
  next => rw [kept, keptToo]

theorem get?_stampFields_created_none :
    Entries.get? (stampFields none now fields) "created_at" =
      some ((Entries.get? fields "created_at").getD (.moment now)) := by
  rw [get?_stampFields none now fields (by decide), stampTimes,
    Entries.get?_put_other _ _ (by decide)]
  cases given : Entries.get? fields "created_at" with
  | none => simp [Entries.has, given, Entries.get?_put_same]
  | some value => simp [Entries.has, given]

theorem get?_stampFields_same (other : Option Rule) (later : Moment) {name : String}
    (noTime : name ≠ "created_at") (noOther : name ≠ "updated_at") :
    Entries.get? (stampFields existing now fields) name =
      Entries.get? (stampFields other later fields) name := by
  cases decEq name "channels" with
  | isTrue isChannels =>
    rw [isChannels]
    exact get?_stampFields_channels existing now other later fields
  | isFalse noChannels =>
    rw [get?_stampFields_other existing now fields noTime noOther noChannels,
      get?_stampFields_other other later fields noTime noOther noChannels]

theorem mem_keys_stampFields {name : String}
    (member : name ∈ Entries.keys (stampFields existing now fields)) :
    name ∈ Entries.keys fields ∨ name = "created_at" ∨ name = "updated_at" := by
  have stamped : name ∈ Entries.keys (stampTimes existing now fields) := by
    unfold stampFields at member
    dsimp only at member
    split at member
    next =>
      rw [Entries.keys_remove] at member
      exact (List.mem_filter.mp member).1
    next => exact member
  rw [stampTimes.eq_def, Entries.mem_keys_put] at stamped
  obtain isUpdated | stamped := stamped
  next => exact .inr (.inr isUpdated)
  next =>
    cases existing with
    | some old => exact (Entries.mem_keys_put.mp stamped).symm.imp_right .inl
    | none =>
      dsimp only at stamped
      split at stamped
      next => exact .inl stamped
      next => exact (Entries.mem_keys_put.mp stamped).symm.imp_right .inl

theorem unknown_stampFields (clear : violations fields = []) :
    Check.unknown (stampFields existing now fields) Rule.fieldNames = [] := by
  have noneUnknown : checkUnknown fields = [] := by
    simp only [violations, List.append_eq_nil_iff] at clear
    exact clear.2
  have known : ∀ name ∈ Entries.keys fields, Rule.fieldNames.contains name = true := by
    simpa [checkUnknown, List.filter_eq_nil_iff] using noneUnknown
  rw [Check.unknown, List.filterMap_eq_nil_iff]
  intro name member
  have isKnown : Rule.fieldNames.contains name = true := by
    obtain given | rfl | rfl := mem_keys_stampFields existing now member
    next => exact known name given
    next => decide
    next => decide
  simpa [Check.keyFault?, Check.decoded] using isKnown

end Stamped

def isMisdated (fields : Entries String Value) : Bool :=
  (Entries.get? fields "created_at").any fun given => (Check.moment given).outcome.isSome

theorem creationFaults_stored (old : Rule) (now : Moment) (fields : Entries String Value) :
    Rule.creationFaults now (stampFields (some old) now fields) = none := by
  rw [Rule.creationFaults, Check.defaulted, get?_stampFields_created]
  rfl

theorem creationFaults_fresh (now : Moment) (fields : Entries String Value) :
    Rule.creationFaults now (stampFields none now fields) =
      (Entries.get? fields "created_at").bind fun given =>
        ((Check.moment given).inside "created_at").outcome := by
  rw [Rule.creationFaults, Check.defaulted, get?_stampFields_created_none]
  cases Entries.get? fields "created_at" <;> rfl

theorem creationFaults_of_misdated {fields : Entries String Value}
    (misdated : isMisdated fields = true) (now : Moment) :
    ∃ fault, Rule.creationFaults now (stampFields none now fields) = some [fault] := by
  obtain ⟨given, found, seen⟩ := (Option.any_eq_true _ _).mp misdated
  rw [creationFaults_fresh, found, Option.bind_some]
  cases read : Check.moment given with
  | good moment => simp [read, Checked.outcome] at seen
  | bad faults =>
    obtain ⟨fault, rfl⟩ := Checked.moment_bad read
    exact ⟨_, rfl⟩

theorem creationFaults_of_dated {fields : Entries String Value}
    (dated : isMisdated fields = false) (now : Moment) :
    Rule.creationFaults now (stampFields none now fields) = none := by
  rw [creationFaults_fresh]
  cases found : Entries.get? fields "created_at" with
  | none => rfl
  | some given =>
    rw [isMisdated, found] at dated
    cases read : Check.moment given with
    | good moment => simp [read, Checked.inside, Checked.outcome]
    | bad faults => simp [read, Checked.outcome] at dated

def verdict : Except StoreFault (Rule × RuleStore) -> Option StoreFault
  | .ok _ => none
  | .error fault => some fault

def sentence (ruleId : Option String) (faults : List Check.Fault) : StoreFault :=
  .rejected { violations := faults.map .field, ruleId }

theorem sentence_injective (ruleId : Option String) : Function.Injective (sentence ruleId) := by
  intro faults others same
  have violations := congrArg Rejection.violations (StoreFault.rejected.inj same)
  exact (List.map_inj_right fun _ _ => Violation.field.inj).mp violations

def normalFields (definition : Value) : Entries String Value := normalize (namedFields definition)

/-- Whether a store hides the fault in the time of creation that a definition gives: nothing else
is wrong with the definition before its fields are read, and it is for a rule that is stored, of
which the time of creation is taken in place of its own. -/
structure Masks (store : RuleStore) (definition : Value) : Prop where
  textKeys : hasForeignKeys definition = false
  clear : violations (normalFields definition) = []
  stored : ∃ old, (ruleId? (normalFields definition)).bind store.get? = some old
  misdated : isMisdated (normalFields definition) = true

section Verdicts

variable {store : RuleStore} {definition : Value}

theorem Masks.isMapping (masks : store.Masks definition) :
    ∃ fields, definition = .mapping fields := by
  have misdated := masks.misdated
  cases definition with
  | mapping fields => exact ⟨fields, rfl⟩
  | table entries => cases masks.textKeys
  | _ => simp [isMisdated, normalFields, namedFields, Rule.Definition.normalize] at misdated

theorem Masks.unjudged?_eq_none (masks : store.Masks definition) :
    unjudged? definition = none := by
  have noCondition : checkCondition (Value.ofOption
      (Entries.get? (normalFields definition) "condition")) = [] := by
    have clear := masks.clear
    simp only [violations, List.append_eq_nil_iff, and_assoc] at clear
    exact clear.2.1
  obtain ⟨source, compiled, isText, -⟩ := compiles_of_checkCondition noCondition
  have shown : hasUnshownCondition definition = false := by
    have found := get?_of_ofOption isText
    rw [normalFields] at found
    simp [hasUnshownCondition, found, Value.isShowable]
  rw [unjudged?, shown, masks.textKeys]
  rfl

theorem verdict_add {fields : Entries String Value} (clear : violations (normalize fields) = [])
    (now : Moment) :
    let normal := normalize fields
    verdict (store.add now (.mapping fields)) =
      (Rule.ofFields now (stampFields ((ruleId? normal).bind store.get?) now normal)).outcome.map
        (sentence (ruleId? normal)) := by
  intro normal
  have noneFound : violations normal = [] := clear
  simp only [add, judge, show normalize fields = normal from rfl, noneFound, List.isEmpty_nil,
    if_true]
  cases Rule.ofFields now (stampFields ((ruleId? normal).bind store.get?) now normal) <;> rfl

theorem verdict_add_unclear {fields : Entries String Value}
    (unclear : violations (normalize fields) ≠ []) (now : Moment) :
    verdict (store.add now (.mapping fields)) =
      some (.rejected { violations := violations (normalize fields),
                        ruleId := ruleId? (normalize fields) }) := by
  simp [add, judge, unclear, verdict]

theorem verdict_add_eq_iff {fields : Entries String Value}
    (clear : violations (normalize fields) = []) (now other : Moment) :
    verdict (store.add now (.mapping fields)) =
        verdict (RuleStore.empty.add other (.mapping fields)) ↔
      ¬ ((∃ old, (ruleId? (normalize fields)).bind store.get? = some old) ∧
        isMisdated (normalize fields) = true) := by
  have nothingStored : (ruleId? (normalize fields)).bind RuleStore.empty.get? = none := by
    cases ruleId? (normalize fields) <;> rfl
  rw [verdict_add clear, verdict_add clear,
    (Option.map_injective (sentence_injective _)).eq_iff, nothingStored,
    Rule.ofFields_outcome (unknown_stampFields _ now clear) (get?_stampFields_updated _ now _),
    Rule.ofFields_outcome (unknown_stampFields _ other clear) (get?_stampFields_updated _ other _),
    Rule.untimed_congr fun name noTime noOther =>
      get?_stampFields_same _ now none other noTime noOther]
  cases (ruleId? (normalize fields)).bind store.get? with
  | none => simp [creationFaults_fresh]
  | some old =>
    -- The time of the rule that is replaced is put in the place of the one given, right or wrong.
    rw [creationFaults_stored, Checked.both_none]
    constructor
    next =>
      rintro same ⟨-, misdated⟩
      obtain ⟨fault, seen⟩ := creationFaults_of_misdated misdated other
      rw [seen] at same
      exact Checked.both_cons_ne _ fault [] same.symm
    next =>
      intro unhidden
      have dated : isMisdated (normalize fields) = false :=
        Bool.eq_false_iff.mpr fun misdated => unhidden ⟨⟨old, rfl⟩, misdated⟩
      rw [creationFaults_of_dated dated, Checked.both_none]

end Verdicts

theorem verdict_add_eq_iff_masks (store : RuleStore) (now other : Moment) (definition : Value) :
    verdict (store.add now definition) = verdict (RuleStore.empty.add other definition) ↔
      ¬ store.Masks definition := by
  cases definition with
  | mapping fields =>
    cases Classical.em (violations (normalize fields) = []) with
    | inl clear =>
      rw [verdict_add_eq_iff clear]
      exact not_congr ⟨fun hidden => ⟨rfl, clear, hidden.1, hidden.2⟩,
        fun masks => ⟨masks.stored, masks.misdated⟩⟩
    | inr unclear =>
      have unmasked : ¬ store.Masks (.mapping fields) := fun masks => unclear masks.clear
      simp [verdict_add_unclear unclear, unmasked]
  | _ =>
    refine iff_of_true rfl fun masks => ?_
    obtain ⟨fields, isMapping⟩ := masks.isMapping
    cases isMapping

theorem verdict_accept_eq_iff (store : RuleStore) (now other : Moment) (offer : Offer) :
    verdict (store.accept now offer) = verdict (RuleStore.empty.accept other offer) ↔
      ¬ store.Masks offer.definition := by
  unfold accept
  cases judged : unjudged? offer.definition with
  | some misuse =>
    refine iff_of_true rfl fun masks => ?_
    rw [masks.unjudged?_eq_none] at judged
    cases judged
  | none => exact verdict_add_eq_iff_masks store now other offer.definition

section Batch

def Given.alone (given : Given) : Option StoreFault :=
  verdict (RuleStore.empty.accept given.1 given.2)

def Given.refusal (given : Given) : Option StoreFault -> Option (Value × String)
  | some (.rejected rejection) => some (given.entry rejection)
  | _ => none

theorem takeOffers_alone {batch : List Given}
    (dated : ∀ given ∈ batch, isMisdated (normalFields given.2.definition) = false)
    (store : RuleStore) (before report : ImportReport)
    (ended : (store.takeOffers before batch).2 = .ok report) :
    report.errors = before.errors ++ batch.filterMap (fun given => given.refusal given.alone) ∧
      report.imported = before.imported + batch.countP fun given => given.alone.isNone := by
  -- What is stored changes from one offer to the next, what is said to the later ones does not.
  induction batch generalizing store before with
  | nil =>
    obtain rfl := Except.ok.inj ended
    simp
  | cons given later ih =>
    obtain ⟨first, others⟩ := List.forall_mem_cons.mp dated
    have same : verdict (store.accept given.1 given.2) = given.alone := by
      refine (verdict_accept_eq_iff store given.1 given.1 given.2).mpr fun masks => ?_
      exact Bool.false_ne_true (first.symm.trans masks.misdated)
    cases taken : store.accept given.1 given.2 with
    | ok stored =>
      obtain ⟨rule, next⟩ := stored
      rw [takeOffers_accepted taken] at ended
      obtain ⟨errors, imported⟩ := ih others next _ ended
      have alone : given.alone = none := by rw [<- same, taken]; rfl
      rw [List.filterMap_cons, List.countP_cons, alone]
      simp [errors, imported, reportWith, Given.refusal, Nat.add_assoc, Nat.add_comm 1]
    | error fault =>
      have alone : given.alone = some fault := by rw [<- same, taken]; rfl
      rw [List.filterMap_cons, List.countP_cons, alone]
      cases fault with
      | rejected rejection =>
        rw [takeOffers_refused taken] at ended
        obtain ⟨errors, imported⟩ := ih others store _ ended
        simp [errors, imported, reportWith, Given.refusal]
      | _ =>
        rw [takeOffers, taken] at ended
        cases ended

end Batch

/-- A store says the same to an offer as one in which nothing is stored, at any times, exactly if it
does not hide a wrong time of creation by that of the rule which would be replaced. So an import of
offers that give no wrong time of creation reports what is said to each on its own. -/
theorem accept_alone_iff (store : RuleStore) :
    (∀ now other offer,
      verdict (store.accept now offer) = verdict (RuleStore.empty.accept other offer) ↔
        ¬ store.Masks offer.definition) ∧
      ∀ (batch : List Given) (report : ImportReport),
        (∀ given ∈ batch, isMisdated (normalFields given.2.definition) = false) ->
          (store.importOffers batch).2 = .ok report ->
            report.errors = batch.filterMap (fun given => given.refusal given.alone) ∧
              report.imported = batch.countP fun given => given.alone.isNone := by
  refine ⟨verdict_accept_eq_iff store, fun batch report dated ended => ?_⟩
  simpa using takeOffers_alone dated store _ report ended

section Examples

def hotStored : RuleStore :=
  RuleStore.empty.after (.add (universal 0) (plainRule "hot" "value > 5" []))

def misdatedOffer : Offer := .data (plainRule "hot" "value > 5" [("created_at", .text "soon")])

theorem accept_alone_mixed :
    hotStored.ids = ["hot"] ∧
      (¬ verdict (hotStored.accept (universal 9) misdatedOffer) =
        verdict (RuleStore.empty.accept (universal 9) misdatedOffer)) ∧
      (∀ given ∈ mixedBatch, isMisdated (normalFields given.2.definition) = false) ∧
      ∃ report, (hotStored.importOffers mixedBatch).2 = .ok report ∧
        report.errors = mixedBatch.filterMap (fun given => given.refusal given.alone) ∧
        report.imported = 2 := by
  obtain ⟨alone, batches⟩ := accept_alone_iff hotStored
  have masks : hotStored.Masks misdatedOffer.definition :=
    { textKeys := rfl
      clear := by decide +kernel
      stored := Option.isSome_iff_exists.mp (by decide +kernel)
      misdated := by decide +kernel }
  have dated : ∀ given ∈ mixedBatch, isMisdated (normalFields given.2.definition) = false := by
    decide +kernel
  cases ended : (hotStored.importOffers mixedBatch).2 with
  | error fault =>
    have ends : (hotStored.importOffers mixedBatch).2.isOk = true := by decide +kernel
    rw [ended] at ends
    cases ends
  | ok report =>
    obtain ⟨errors, imported⟩ := batches mixedBatch report dated ended
    refine ⟨by decide +kernel, ?_, dated, report, rfl, errors, ?_⟩
    next =>
      rw [alone (universal 9) (universal 9) misdatedOffer]
      exact not_not_intro masks
    next =>
      rw [imported]
      decide +kernel

/-- The same rule is rejected by a store without its id, and taken by one with it. -/
theorem creation_hidden_by_stored :
    verdict (hotStored.accept (universal 9) misdatedOffer) = none ∧
      verdict (RuleStore.empty.accept (universal 9) misdatedOffer) =
        some (sentence (some "hot")
          [{ path := ["created_at"], problem := .unreadableMoment .tooShort }]) := by
  decide +kernel

end Examples

end RuleStore

end SensorAlerting
