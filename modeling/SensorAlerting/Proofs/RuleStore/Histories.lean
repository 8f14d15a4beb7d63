import SensorAlerting.Proofs.Items
import SensorAlerting.Proofs.Number.Doubles
import SensorAlerting.Proofs.RuleStore.Admission
import SensorAlerting.RuleStore.Data

set_option autoImplicit false

/-!
The rules in store against the history of what was stored, toggled and dropped. The history tells
the time of creation of each rule, the time of its last change and its place in the list, whichever
calls have led there.
-/

namespace SensorAlerting.RuleStore

open SensorAlerting.Number SensorAlerting.Time SensorAlerting.Rule.Definition

inductive Change where
  | stored (now : Moment) (rule : Rule)
  | toggled (now : Moment) (ruleId : String)
  | dropped (ruleId : String)
  | cleared

namespace Change

def drops (ruleId : String) : Change -> Bool
  | .dropped other => other == ruleId
  | .cleared => true
  | _ => false

def rule? : Change -> Option Rule
  | .stored _ rule => some rule
  | _ => none

def touch? (ruleId : String) : Change -> Option Moment
  | .stored now rule => if rule.ruleId == ruleId then some now else none
  | .toggled now other => if other == ruleId then some now else none
  | _ => none

end Change

def undropped : List Change -> List Rule
  | [] => []
  | .stored _ rule :: later =>
    if later.any (Change.drops rule.ruleId) then undropped later else rule :: undropped later
  | _ :: later => undropped later

/-- The rule by which an id was last inserted: the first that was stored since it was dropped. -/
def inserted? (history : List Change) (ruleId : String) : Option Rule :=
  (undropped history).find? fun rule => rule.ruleId == ruleId

def touched? (history : List Change) (ruleId : String) : Option Moment :=
  (history.filterMap (Change.touch? ruleId)).getLast?

/-- The ids in the order in which they were last inserted. -/
def insertionOrder (history : List Change) : List String :=
  distinct ((undropped history).map Rule.ruleId)

section Histories

variable (history : List Change)

theorem undropped_eq_remaining :
    undropped history = remaining Change.rule? (fun rule => Change.drops rule.ruleId) history := by
  induction history with
  | nil => rfl
  | cons first later ih => cases first <;> simp [undropped, remaining, Change.rule?, ih]

theorem undropped_snoc (change : Change) :
    undropped (history ++ [change]) =
      (undropped history).filter (fun rule => !change.drops rule.ruleId) ++
        change.rule?.toList := by
  rw [undropped_eq_remaining, undropped_eq_remaining, remaining_snoc]

theorem touched?_snoc (change : Change) (ruleId : String) :
    touched? (history ++ [change]) ruleId =
      (change.touch? ruleId).or (touched? history ruleId) := by
  unfold touched?
  rw [List.filterMap_append, List.getLast?_append]
  cases touched : change.touch? ruleId <;> simp [touched]

theorem inserted?_snoc (change : Change) (ruleId : String) :
    inserted? (history ++ [change]) ruleId =
      if change.drops ruleId then none
      else (inserted? history ruleId).or
        (change.rule?.filter fun rule => rule.ruleId == ruleId) := by
  unfold inserted?
  rw [undropped_snoc, List.find?_append, List.find?_filter]
  have ofId : (fun rule : Rule => decide ((!change.drops rule.ruleId) = true ∧
        (rule.ruleId == ruleId) = true)) =
      fun rule => !change.drops ruleId && rule.ruleId == ruleId := by
    funext rule
    cases same : rule.ruleId == ruleId with
    | false => simp
    | true => simp [eq_of_beq same]
  rw [ofId]
  cases change with
  | stored now rule =>
    cases same : rule.ruleId == ruleId <;>
      simp [Change.drops, Change.rule?, Option.filter, same]
  | toggled now other => simp [Change.drops, Change.rule?]
  | dropped other => cases same : other == ruleId <;> simp [Change.drops, Change.rule?, same]
  | cleared => simp [Change.drops, Change.rule?]

theorem insertionOrder_snoc (change : Change) :
    insertionOrder (history ++ [change]) =
      (change.rule?.map Rule.ruleId).toList.foldl addNew
        ((insertionOrder history).filter fun ruleId => !change.drops ruleId) := by
  unfold insertionOrder
  rw [undropped_snoc, List.map_append, distinct_append, <- distinct_filter, List.filter_map]
  cases change.rule? <;> rfl

theorem insertionOrder_snoc_kept {change : Change} (stays : ∀ ruleId, change.drops ruleId = false) :
    insertionOrder (history ++ [change]) =
      (change.rule?.map Rule.ruleId).toList.foldl addNew (insertionOrder history) := by
  rw [insertionOrder_snoc, List.filter_eq_self.mpr fun ruleId _ => by simp [stays ruleId]]

theorem inserted?_eq_none {ruleId : String} :
    inserted? history ruleId = none ↔ ruleId ∉ insertionOrder history := by
  simp [inserted?, insertionOrder]

end Histories

structure Kept (history : List Change) (ruleId : String) (rule : Rule) : Prop where
  own : rule.ruleId = ruleId
  named : ruleId ≠ ""
  compiled : HasCondition rule
  throttle : 0 <= rule.throttleMinutes ∧ isUndefined rule.throttleMinutes = false
  createdAt : (inserted? history ruleId).map Rule.createdAt = some rule.createdAt
  updatedAt : touched? history ruleId = some rule.updatedAt

structure Agrees (history : List Change) (store : RuleStore) : Prop where
  order : store.ids = insertionOrder history
  kept : ∀ ruleId rule, store.get? ruleId = some rule -> Kept history ruleId rule

section Steps

variable {history : List Change} {store after : RuleStore}

theorem agrees_empty : Agrees [] .empty where
  order := rfl
  kept _ _ found := by cases found

theorem Agrees.single (agrees : Agrees history store) : Entries.Distinct store.rules := by
  change store.ids.Nodup
  rw [agrees.order]
  exact nodup_distinct _

theorem Agrees.kept_of_mem (agrees : Agrees history store) {entry : String × Rule}
    (member : entry ∈ store.rules) : Kept history entry.1 entry.2 :=
  agrees.kept _ _ (Entries.get?_of_mem agrees.single member)

theorem Agrees.ownIds (agrees : Agrees history store) :
    store.toList.map Rule.ruleId = store.ids := by
  rw [toList, Entries.items, List.map_map]
  exact List.map_congr_left fun entry member => (agrees.kept_of_mem member).own

theorem Kept.snoc {ruleId : String} {rule : Rule} (kept : Kept history ruleId rule)
    {change : Change} (stays : change.drops ruleId = false)
    (untouched : change.touch? ruleId = none) : Kept (history ++ [change]) ruleId rule where
  own := kept.own
  named := kept.named
  compiled := kept.compiled
  throttle := kept.throttle
  createdAt := by
    obtain ⟨first, inserted, created⟩ := Option.map_eq_some_iff.mp kept.createdAt
    rw [inserted?_snoc, stays, inserted]
    simpa using created
  updatedAt := by
    rw [touched?_snoc, untouched]
    exact kept.updatedAt

theorem add_cases {now : Moment} {definition : Value} {rule : Rule}
    (added : store.add now definition = .ok (rule, after)) :
    Admitted store.get? now rule ∧ after.rules = Entries.put store.rules rule.ruleId rule := by
  unfold add at added
  split at added
  next made judged =>
    cases added
    exact ⟨admitted_of_judge judged, rfl⟩
  next => cases added

theorem Agrees.stored (agrees : Agrees history store) {now : Moment} {definition : Value}
    {rule : Rule} (added : store.add now definition = .ok (rule, after)) :
    Agrees (history ++ [.stored now rule]) after := by
  obtain ⟨admitted, put⟩ := add_cases added
  constructor
  next =>
    rw [insertionOrder_snoc_kept history fun _ => rfl, <- agrees.order, ids, put,
      Entries.keys_put]
    rfl
  next =>
    intro ruleId found isFound
    by_cases same : rule.ruleId = ruleId
    next =>
      subst same
      have isNew : found = rule := by simpa [get?, put] using isFound.symm
      subst isNew
      refine ⟨rfl, admitted.named, admitted.compiled,
        ⟨admitted.sound, not_isUndefined_of_le admitted.sound⟩, ?_, ?_⟩
      next =>
        rw [inserted?_snoc]
        cases before : store.get? found.ruleId with
        | some old =>
          -- The rule takes the place of another, whose time of creation it keeps.
          obtain ⟨first, inserted, created⟩ :=
            Option.map_eq_some_iff.mp (agrees.kept _ _ before).createdAt
          simp [Change.drops, inserted, created, admitted.createdAt old before]
        | none =>
          -- The id is new in the list, so that the history knows no insertion since its drop.
          have absent : inserted? history found.ruleId = none := by
            rw [inserted?_eq_none, <- agrees.order]
            exact Entries.get?_eq_none.mp before
          simp [Change.drops, Change.rule?, absent, Option.filter]
      next =>
        rw [touched?_snoc]
        simp [Change.touch?, admitted.updatedAt]
    next =>
      have before : store.get? ruleId = some found := by
        rw [<- isFound, get?, get?, put, Entries.get?_put_other _ _ same]
      exact (agrees.kept _ _ before).snoc rfl (by simp [Change.touch?, same])

theorem toggle_cases {now : Moment} {ruleId : String} {enabled : Bool} {rule : Rule}
    (toggled : store.toggle now ruleId enabled = .ok (rule, after)) :
    ∃ old, store.get? ruleId = some old ∧ rule = { old with enabled, updatedAt := now } ∧
      after.rules = Entries.put store.rules ruleId rule := by
  cases found : store.get? ruleId with
  | none => simp [toggle, get, found, bind, Except.bind] at toggled
  | some old =>
    simp only [toggle, get, found, bind, Except.bind, Except.ok.injEq, Prod.mk.injEq] at toggled
    obtain ⟨rfl, rfl⟩ := toggled
    exact ⟨old, rfl, rfl, rfl⟩

theorem Agrees.toggled (agrees : Agrees history store) {now : Moment} {ruleId : String}
    {enabled : Bool} {rule : Rule} (toggled : store.toggle now ruleId enabled = .ok (rule, after)) :
    Agrees (history ++ [.toggled now ruleId]) after := by
  obtain ⟨old, before, rfl, put⟩ := toggle_cases toggled
  have kept := agrees.kept _ _ before
  constructor
  next =>
    -- The id is there, so that the rule keeps its place.
    have known := Entries.mem_keys_of_get? before
    rw [insertionOrder_snoc_kept history fun _ => rfl, <- agrees.order, ids, put,
      Entries.keys_put]
    simp [Change.rule?, ids, addNew, known]
  next =>
    intro other found isFound
    by_cases same : ruleId = other
    next =>
      subst same
      obtain rfl : _ = found := by simpa [get?, put] using isFound
      obtain ⟨first, inserted, created⟩ := Option.map_eq_some_iff.mp kept.createdAt
      refine ⟨kept.own, kept.named, kept.compiled, kept.throttle, ?_, ?_⟩
      next =>
        rw [inserted?_snoc, inserted]
        simpa [Change.drops] using created
      next =>
        rw [touched?_snoc]
        simp [Change.touch?]
    next =>
      have before : store.get? other = some found := by
        rw [<- isFound, get?, get?, put, Entries.get?_put_other _ _ same]
      exact (agrees.kept _ _ before).snoc rfl (by simp [Change.touch?, same])

theorem Agrees.dropped (agrees : Agrees history store) (ruleId : String) :
    Agrees (history ++ [.dropped ruleId]) (store.delete ruleId).2 := by
  constructor
  next =>
    rw [insertionOrder_snoc, <- agrees.order, ids, delete, Entries.keys_remove]
    simp [Change.drops, Change.rule?, ids, BEq.comm]
  next =>
    intro other found isFound
    rw [get?, delete, Entries.get?_remove] at isFound
    split at isFound
    next => cases isFound
    next stays =>
      exact (agrees.kept _ _ isFound).snoc (Bool.eq_false_iff.mpr stays) rfl

theorem Agrees.cleared : Agrees (history ++ [.cleared]) .empty where
  order := by
    rw [insertionOrder_snoc]
    simp [Change.drops, Change.rule?, empty, ids, Entries.keys]
  kept _ _ found := by cases found

end Steps

inductive Call where
  | add (now : Moment) (definition : Value)
  | delete (ruleId : Value)
  | toggle (now : Moment) (ruleId enabled : Value)
  | bulkImport (definitions : List (Moment × Value))
  | createFromTemplate (named now : Moment) (name overrides : Value)
  | clear

/-- The definitions of a batch that are come to. One that cannot be judged at all ends the call, and
what was stored before it stays. -/
def reached (definitions : List (Moment × Value)) : List (Moment × Value) :=
  definitions.takeWhile fun given => (unjudged? given.2).isNone

/-- The store that an operation leaves, the one before it if it fails. -/
def orSame {Item : Type} (store : RuleStore) : Except StoreFault (Item × RuleStore) -> RuleStore
  | .ok (_, next) => next
  | .error _ => store

def after (store : RuleStore) : Call -> RuleStore
  | .add now definition => store.orSame (store.accept now (.data definition))
  | .delete ruleId => store.orSame (store.deleteBy ruleId)
  | .toggle now ruleId enabled => store.orSame (store.toggleBy now ruleId enabled)
  | .bulkImport definitions =>
    (store.importOffers (definitions.map fun given => (given.1, .data given.2))).1
  | .createFromTemplate named now name overrides =>
    store.orSame (store.createNamed named now name overrides)
  | .clear => .empty

def storedBy (now : Moment) : Except StoreFault (Rule × RuleStore) -> List Change
  | .ok (rule, _) => [.stored now rule]
  | .error _ => []

def importedBy : RuleStore -> List (Moment × Value) -> List Change
  | _, [] => []
  | store, (now, definition) :: later =>
    storedBy now (store.add now definition) ++
      importedBy (store.orSame (store.add now definition)) later

def changes (store : RuleStore) : Call -> List Change
  | .add now definition => storedBy now (store.accept now (.data definition))
  | .delete ruleId => (ruleId.text?.map .dropped).toList
  | .toggle now ruleId enabled =>
    match store.toggleBy now ruleId enabled with
    | .ok _ => (ruleId.text?.map (.toggled now)).toList
    | .error _ => []
  | .bulkImport definitions => store.importedBy (reached definitions)
  | .createFromTemplate named now name overrides =>
    storedBy now (store.createNamed named now name overrides)
  | .clear => [.cleared]

def historyOf : RuleStore -> List Call -> List Change
  | _, [] => []
  | store, call :: later => store.changes call ++ historyOf (store.after call) later

theorem reached_of_all {definitions : List (Moment × Value)}
    (judgeable : ∀ given ∈ definitions, unjudged? given.2 = none) :
    reached definitions = definitions := by
  have ends := @List.takeWhile_append_of_pos _ (fun given => (unjudged? given.2).isNone)
    definitions [] (by simpa using judgeable)
  simpa [reached] using ends

theorem accept_cases (store : RuleStore) (now : Moment) (offer : Offer) :
    (∃ misuse, unjudged? offer.definition = some misuse ∧
        store.accept now offer = .error (.misuse misuse)) ∨
      unjudged? offer.definition = none ∧
        store.accept now offer = store.add now offer.definition := by
  unfold accept
  cases unjudged? offer.definition with
  | some misuse => exact .inl ⟨misuse, rfl, rfl⟩
  | none => exact .inr ⟨rfl, rfl⟩

theorem takeOffers_data (store : RuleStore) (report : ImportReport)
    (definitions : List (Moment × Value)) :
    (store.takeOffers report (definitions.map fun given => (given.1, .data given.2))).1 =
      ((reached definitions).foldl importOne (store, report)).1 := by
  induction definitions generalizing store report with
  | nil => rfl
  | cons given later ih =>
    obtain ⟨now, definition⟩ := given
    obtain ⟨misuse, unjudged, taken⟩ | ⟨judgeable, taken⟩ :=
      accept_cases store now (.data definition)
    next => simp_all [takeOffers, reached, Offer.definition]
    next =>
      have goes : reached ((now, definition) :: later) = (now, definition) :: reached later := by
        simp_all [reached, Offer.definition]
      rw [goes, List.foldl_cons, List.map_cons, takeOffers, taken, add, importOne]
      dsimp only [Offer.definition]
      cases judge store.get? now definition with
      | ok rule => exact ih _ _
      | error rejection => exact ih _ _

section Calls

variable {history : List Change} {store : RuleStore}

theorem Agrees.failed (agrees : Agrees history store) (now : Moment) (fault : StoreFault) :
    Agrees (history ++ RuleStore.storedBy now (.error fault))
      (@orSame Rule store (.error fault)) := by
  simpa [RuleStore.storedBy, orSame] using agrees

theorem Agrees.storedBy (agrees : Agrees history store) (now : Moment) (definition : Value) :
    Agrees (history ++ RuleStore.storedBy now (store.add now definition))
      (store.orSame (store.add now definition)) := by
  cases added : store.add now definition with
  | error fault => exact agrees.failed now fault
  | ok stored => exact agrees.stored added

theorem Agrees.accepted (agrees : Agrees history store) (now : Moment) (offer : Offer) :
    Agrees (history ++ RuleStore.storedBy now (store.accept now offer))
      (store.orSame (store.accept now offer)) := by
  obtain ⟨misuse, -, taken⟩ | ⟨-, taken⟩ := accept_cases store now offer
  next =>
    rw [taken]
    exact agrees.failed now _
  next =>
    rw [taken]
    exact agrees.storedBy now offer.definition

theorem importOne_store (report : ImportReport) (now : Moment) (definition : Value) :
    (importOne (store, report) (now, definition)).1 = store.orSame (store.add now definition) := by
  cases judged : judge store.get? now definition <;> simp [importOne, add, judged, orSame]

theorem Agrees.imported (agrees : Agrees history store) (definitions : List (Moment × Value))
    (report : ImportReport) :
    Agrees (history ++ store.importedBy definitions)
      (definitions.foldl importOne (store, report)).1 := by
  induction definitions generalizing history store report with
  | nil => simpa [importedBy] using agrees
  | cons given later ih =>
    have one := agrees.storedBy given.1 given.2
    rw [<- importOne_store report] at one
    simpa [importedBy, <- importOne_store report] using
      ih one (importOne (store, report) given).2

theorem createNamed_cases (store : RuleStore) (named now : Moment) (name overrides : Value) :
    (∃ definition, store.createNamed named now name overrides =
        store.accept now (.data definition)) ∨
      ∃ fault, store.createNamed named now name overrides = .error fault := by
  unfold createNamed
  cases misuse name.asKey with
  | error fault => exact .inr ⟨fault, rfl⟩
  | ok key =>
    dsimp only [bind, Except.bind]
    split
    next => exact .inr ⟨_, rfl⟩
    next =>
      split
      next => exact .inr ⟨_, rfl⟩
      next body found =>
        cases overridesOf overrides with
        | error fault => exact .inr ⟨fault, rfl⟩
        | ok fields =>
          dsimp only
          cases fromTemplate body _ named fields with
          | error fault => exact .inr ⟨fault, rfl⟩
          | ok definition =>
            exact .inl ⟨definition, rfl⟩

theorem Agrees.created (agrees : Agrees history store) (named now : Moment)
    (name overrides : Value) :
    Agrees (history ++ RuleStore.storedBy now (store.createNamed named now name overrides))
      (store.orSame (store.createNamed named now name overrides)) := by
  obtain ⟨definition, same⟩ | ⟨fault, same⟩ := createNamed_cases store named now name overrides
  next =>
    rw [same]
    exact agrees.accepted now (.data definition)
  next =>
    rw [same]
    exact agrees.failed now fault

theorem toggleBy_cases {after : RuleStore} {now : Moment} {ruleId enabled : Value} {rule : Rule}
    (toggled : store.toggleBy now ruleId enabled = .ok (rule, after)) :
    ∃ name, ruleId = .text name ∧
      store.toggle now name (!enabled.isEmpty) = .ok (rule, after) := by
  cases ruleId with
  | text name => exact ⟨name, rfl, toggled⟩
  | _ => cases toggled

theorem orSame_deleteBy (store : RuleStore) {ruleId : Value} (noText : ruleId.text? = none) :
    store.orSame (store.deleteBy ruleId) = store := by
  cases ruleId with
  | text name => cases noText
  | _ => rfl

theorem Agrees.after (agrees : Agrees history store) (call : Call) :
    Agrees (history ++ store.changes call) (store.after call) := by
  cases call with
  | add now definition => exact agrees.accepted now (.data definition)
  | delete ruleId =>
    rw [RuleStore.after]
    cases ruleId with
    | text name => exact agrees.dropped name
    | _ =>
      rw [orSame_deleteBy store rfl]
      simpa [changes, Value.text?] using agrees
  | toggle now ruleId enabled =>
    rw [RuleStore.after, changes]
    cases toggled : store.toggleBy now ruleId enabled with
    | error fault => simpa [orSame] using agrees
    | ok stored =>
      obtain ⟨name, rfl, toggled⟩ := toggleBy_cases toggled
      exact agrees.toggled toggled
  | bulkImport definitions =>
    rw [RuleStore.after, importOffers, takeOffers_data]
    exact agrees.imported (reached definitions) _
  | createFromTemplate named now name overrides => exact agrees.created named now name overrides
  | clear => exact Agrees.cleared

theorem Agrees.run (agrees : Agrees history store) (calls : List Call) :
    Agrees (history ++ historyOf store calls) (calls.foldl RuleStore.after store) := by
  induction calls generalizing history store with
  | nil => simpa [historyOf] using agrees
  | cons call later ih => simpa [historyOf] using ih (agrees.after call)

end Calls

/-- Whatever calls are made, every rule in store is as the history of its id tells, and the rules
are listed in the order in which their ids were last inserted. -/
theorem rules_by_history (calls : List Call) :
    let store := calls.foldl after .empty
    let history := historyOf .empty calls
    (∀ ruleId rule, (ruleId, rule) ∈ store.rules -> Kept history ruleId rule) ∧
      store.list .everything = .ok store.toList ∧
      store.toList.map Rule.ruleId = insertionOrder history := by
  dsimp only
  have agrees := agrees_empty.run calls
  rw [List.nil_append] at agrees
  generalize calls.foldl after .empty = store at agrees
  have unique : Entries.Distinct store.rules := by
    change store.ids.Nodup
    rw [agrees.order]
    exact nodup_distinct _
  have kept : ∀ ruleId rule, (ruleId, rule) ∈ store.rules ->
      Kept (historyOf .empty calls) ruleId rule := by
    intro ruleId rule member
    exact agrees.kept ruleId rule (Entries.get?_of_mem unique member)
  refine ⟨kept, ?_, ?_⟩
  next => simp [list, RuleFilter.everything, bind, Except.bind]
  next =>
    rw [<- agrees.order, toList, Entries.items, List.map_map]
    exact List.map_congr_left fun entry member => (kept _ _ member).own

end SensorAlerting.RuleStore
