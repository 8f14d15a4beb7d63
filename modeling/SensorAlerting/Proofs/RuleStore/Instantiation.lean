import SensorAlerting.Proofs.Rule.Normalization
import SensorAlerting.Proofs.RuleStore.Histories

set_option autoImplicit false

/-!
Rules that are made from a template. One that is given no id is named for its template and the
millisecond, so that two of one template share an id if they are made within one millisecond; the
later one takes the place of the earlier.
-/

namespace SensorAlerting

open SensorAlerting.Number SensorAlerting.Time SensorAlerting.Rule.Definition

namespace Number

theorem underscore_not_mem_intChars (number : Int) : '_' ∉ intChars number := by
  intro member
  have among : '_' = '-' ∨ '_' ∈ natChars number.natAbs := by
    unfold intChars signed at member
    split at member
    next => exact List.mem_cons.mp member
    next => exact .inr member
  cases among with
  | inl minus => cases minus
  | inr digit =>
    have isDigit := Nat.isDigit_of_mem_toDigits (by decide) (by decide) digit
    cases isDigit

theorem natChars_injective : Function.Injective natChars := by
  intro first second same
  have read := congrArg (fun digits => Nat.ofDigitChars 10 digits 0) same
  simpa [natChars, Nat.ofDigitChars_toDigits] using read

theorem minus_not_mem_natChars (number : Nat) : '-' ∉ natChars number := by
  intro member
  have isDigit := Nat.isDigit_of_mem_toDigits (by decide) (by decide) member
  cases isDigit

theorem intChars_injective : Function.Injective intChars := by
  intro first second same
  -- Only a number below nought begins with a minus sign.
  have sameSign : decide (first < 0) = decide (second < 0) := by
    have negative : ∀ number : Int, ('-' ∈ intChars number) ↔ number < 0 := by
      intro number
      by_cases below : number < 0 <;>
        simp [intChars, signed, below, minus_not_mem_natChars]
    rw [decide_eq_decide, <- negative first, <- negative second, same]
  have sameSize : first.natAbs = second.natAbs := by
    apply natChars_injective
    rw [intChars, intChars, sameSign] at same
    cases second_negative : decide (second < 0) <;> simpa [signed, second_negative] using same
  simp only [decide_eq_decide] at sameSign
  omega

theorem append_intChars_inj {before other : List Char} {number another : Int}
    (same : before ++ '_' :: intChars number = other ++ '_' :: intChars another) :
    before = other ∧ number = another := by
  -- A longer beginning would have its underscore among the digits of the other number.
  have noGap : ∀ {first second : Int} {gap : List Char},
      '_' :: intChars first = gap ++ '_' :: intChars second -> gap = [] := by
    intro first second gap digits
    cases gap with
    | nil => rfl
    | cons letter rest =>
      have among : '_' ∈ intChars first := by
        rw [(List.cons.inj digits).2]
        simp
      exact (underscore_not_mem_intChars first among).elim
  obtain ⟨gap, longer, digits⟩ | ⟨gap, longer, digits⟩ := List.append_eq_append_iff.mp same
  all_goals
    obtain rfl := noGap digits
    simp only [List.append_nil, List.nil_append, List.cons.injEq, true_and] at longer digits
  next => exact ⟨longer.symm, intChars_injective digits⟩
  next => exact ⟨longer, intChars_injective digits.symm⟩

end Number

namespace Rule.Definition

theorem canonicalName_eq_ruleId {name : String} :
    canonicalName name = "rule_id" ↔ name = "rule_id" ∨ name = "id" := by
  simp only [canonicalName]
  split <;> (try split) <;> (try split) <;> simp_all

def overlay (fields others : Entries String Value) : Entries String Value :=
  others.foldl (fun fields field => Entries.put fields field.1 field.2) fields

theorem IsNormal.overlay {fields others : Entries String Value} (normal : IsNormal fields)
    (canonical : ∀ entry ∈ others, canonicalName entry.1 = entry.1) :
    IsNormal (Definition.overlay fields others) := by
  induction others generalizing fields with
  | nil => exact normal
  | cons entry rest ih =>
    obtain ⟨first, later⟩ := List.forall_mem_cons.mp canonical
    exact ih (normal.put first entry.2) later

theorem mem_overlay {fields others : Entries String Value} {entry : String × Value}
    (member : entry ∈ overlay fields others) : entry ∈ fields ∨ entry ∈ others := by
  induction others generalizing fields with
  | nil => exact .inl member
  | cons other rest ih =>
    obtain before | later := ih member
    next =>
      obtain same | earlier := Entries.mem_put before
      next => exact .inr (same ▸ List.mem_cons_self)
      next => exact .inl earlier
    next => exact .inr (List.mem_cons_of_mem other later)

end Rule.Definition

namespace Template

theorem isNormal_of_get? {name : String} {body : Entries String Value}
    (found : Template.get? name = some body) :
    IsNormal body ∧ ∀ entry ∈ body, entry.1 ≠ "rule_id" := by
  have all : ∀ template ∈ catalog, (Entries.keys template.2).Nodup ∧
      ∀ entry ∈ template.2, canonicalName entry.1 = entry.1 ∧ entry.1 ≠ "rule_id" := by
    decide +kernel
  obtain ⟨distinct, names⟩ := all (name, body) (Entries.mem_of_get? found)
  exact ⟨⟨distinct, fun entry member => (names entry member).1⟩,
    fun entry member => (names entry member).2⟩

end Template

namespace RuleStore

/-- The id of a rule that is given none. -/
def generatedId (template : String) (millis : Int) : String := template ++ "_" ++ intText millis

theorem generatedId_inj {template other : String} {millis otherMillis : Int} :
    generatedId template millis = generatedId other otherMillis ↔
      template = other ∧ millis = otherMillis := by
  constructor
  next =>
    intro same
    have letters := congrArg String.toList same
    simp only [generatedId, intText, String.toList_append, String.toList_ofList,
      List.append_assoc] at letters
    obtain ⟨sameName, sameNumber⟩ := append_intChars_inj letters
    exact ⟨String.toList_inj.mp sameName, sameNumber⟩
  next =>
    rintro ⟨rfl, rfl⟩
    rfl

section Instantiation

variable {store after : RuleStore} {named now : Moment} {name overrides : Value} {rule : Rule}

structure Instantiated (store after : RuleStore) (named now : Moment) (overrides : Value)
    (rule : Rule) (template : String) (definition : Value) : Prop where
  made : ∃ body fields, Template.get? template = some body ∧
    overridesOf overrides = .ok fields ∧ fromTemplate body template named fields = .ok definition
  added : store.add now definition = .ok (rule, after)

theorem instantiated_of_createNamed
    (created : store.createNamed named now name overrides = .ok (rule, after)) :
    ∃ template definition, name = .text template ∧
      Instantiated store after named now overrides rule template definition := by
  unfold createNamed at created
  obtain ⟨key, isKey, created⟩ := ok_of_bind created
  cases key with
  | none => cases created
  | some template =>
    have isText : name = .text template := by
      cases name with
      | text letters => exact congrArg Value.text (Option.some.inj (Except.ok.inj isKey))
      | _ => cases isKey
    dsimp only at created
    split at created
    next => cases created
    next body found =>
      obtain ⟨fields, given, created⟩ := ok_of_bind created
      obtain ⟨definition, made, created⟩ := ok_of_bind created
      obtain ⟨misuse, -, taken⟩ | ⟨-, taken⟩ := accept_cases store now (.data definition)
      next =>
        rw [taken] at created
        cases created
      next =>
        rw [taken] at created
        exact ⟨template, definition, isText, ⟨body, fields, found, given, made⟩, created⟩

def LeavesUnnamed (overrides : Value) : Prop :=
  ∀ field ∈ namedFields overrides, field.1 = "rule_id" ∨ field.1 = "id" -> field.2.isEmpty = true

instance : DecidablePred LeavesUnnamed := fun overrides =>
  inferInstanceAs (Decidable (∀ field ∈ namedFields overrides, _))

theorem mem_of_overridesOf {fields : Entries String Value}
    (given : overridesOf overrides = .ok fields) :
    ∀ field ∈ fields, field ∈ namedFields overrides := by
  unfold overridesOf at given
  split at given
  next =>
    obtain rfl := Except.ok.inj given
    exact fun field member => member
  next =>
    split at given
    next =>
      obtain rfl := Except.ok.inj given
      exact fun field member => by cases member
    next => cases given

theorem isEmpty_ruleId_overlay {body fields : Entries String Value} {template : String}
    (found : Template.get? template = some body)
    (unnamed : ∀ field ∈ fields, field.1 = "rule_id" ∨ field.1 = "id" -> field.2.isEmpty = true) :
    (Value.ofOption
      (Entries.get? (overlay body (normalize fields)) "rule_id")).isEmpty = true := by
  cases given : Entries.get? (overlay body (normalize fields)) "rule_id" with
  | none => rfl
  | some value =>
    obtain ofTemplate | overridden := mem_overlay (Entries.mem_of_get? given)
    next => exact ((Template.isNormal_of_get? found).2 _ ofTemplate rfl).elim
    next =>
      obtain ⟨field, member, same⟩ := mem_normalize overridden
      obtain ⟨isId, rfl⟩ := Prod.mk.inj same
      exact unnamed field member (canonicalName_eq_ruleId.mp isId.symm)

theorem ruleId_of_fromTemplate {body fields : Entries String Value} {template : String}
    {definition : Value} (found : Template.get? template = some body)
    (unnamed : ∀ field ∈ fields, field.1 = "rule_id" ∨ field.1 = "id" -> field.2.isEmpty = true)
    (made : fromTemplate body template named fields = .ok definition) :
    ∃ millis content, millisecondsOf named = .ok millis ∧ definition = .mapping content ∧
      Entries.get? (normalize content) "rule_id" =
        some (.text (generatedId template millis)) := by
  have merged : IsNormal (overlay body (normalize fields)) :=
    (Template.isNormal_of_get? found).1.overlay (isNormal_normalize fields).canonical
  have generated : fromTemplate body template named fields =
      (millisecondsOf named).map fun millis => .mapping
        (Entries.put (overlay body (normalize fields)) "rule_id"
          (.text (generatedId template millis))) :=
    if_pos (isEmpty_ruleId_overlay found unnamed)
  rw [generated] at made
  cases read : millisecondsOf named with
  | error fault =>
    rw [read] at made
    cases made
  | ok millis =>
    rw [read] at made
    refine ⟨millis, _, rfl, (Except.ok.inj made).symm, ?_⟩
    rw [(merged.put (by decide) _).normalize_eq]
    exact Entries.get?_put_same _ _ _

theorem ruleId_of_add {fields : Entries String Value} {ruleId : String}
    (given : Entries.get? (normalize fields) "rule_id" = some (.text ruleId))
    (added : store.add now (.mapping fields) = .ok (rule, after)) : rule.ruleId = ruleId := by
  unfold add judge at added
  dsimp only at added
  split at added
  next made judged =>
    obtain ⟨rfl, -⟩ := Prod.mk.inj (Except.ok.inj added)
    split at judged
    next =>
      split at judged
      next read passed =>
        obtain rfl := Except.ok.inj judged
        have stamped := (get?_stampFields_other ((ruleId? (normalize fields)).bind store.get?) now
          (normalize fields) (by decide) (by decide) (by decide)).trans given
        exact (eq_of_required stamped (Rule.readFrom_of_ofFields passed).ruleId).1
      next => cases judged
    next => cases judged
  next => cases added

theorem mem_ids_iff (store : RuleStore) (ruleId : String) :
    ruleId ∈ store.ids ↔ store.contains ruleId = true := by
  rw [contains, Entries.has, ids]
  cases found : Entries.get? store.rules ruleId with
  | none => simpa using Entries.get?_eq_none.mp found
  | some rule => simpa using Entries.mem_keys_of_get? found

theorem grows_of_put {ruleId : String}
    (put : after.rules = Entries.put store.rules ruleId rule) :
    (store.contains ruleId = false -> after.size = store.size + 1) ∧
      (store.contains ruleId = true -> after.ids = store.ids) := by
  constructor
  next =>
    intro absent
    have fresh : ruleId ∉ Entries.keys store.rules := by
      intro member
      have present := (store.mem_ids_iff ruleId).mp member
      rw [absent] at present
      cases present
    rw [size, put, Entries.put_fresh fresh]
    simp [size]
  next =>
    intro present
    have member : ruleId ∈ store.ids := (store.mem_ids_iff ruleId).mpr present
    rw [ids, put, Entries.keys_put]
    exact if_pos (List.contains_iff_mem.mpr member)

end Instantiation

/-- A rule that is made from a template and given no id is named for the template and the
millisecond, and for nothing else. It is stored under that id, and every other id stays as it was.
The store grows by one rule and keeps all that were stored exactly if no rule had the id; a rule
that had it is replaced. -/
theorem createNamed_grows_iff (store after : RuleStore) (named now : Moment)
    (name overrides : Value) (rule : Rule) (unnamed : LeavesUnnamed overrides)
    (created : store.createNamed named now name overrides = .ok (rule, after)) :
    (∃ template millis, name = .text template ∧ millisecondsOf named = .ok millis ∧
      ∀ other otherMillis, generatedId other otherMillis = rule.ruleId ↔
        other = template ∧ otherMillis = millis) ∧
      after.get? rule.ruleId = some rule ∧
      (∀ other, other ≠ rule.ruleId -> after.get? other = store.get? other) ∧
      (store.contains rule.ruleId = false ↔
        after.size = store.size + 1 ∧
          ∀ ruleId old, store.get? ruleId = some old -> after.get? ruleId = some old) ∧
      (store.contains rule.ruleId = true -> after.ids = store.ids) := by
  obtain ⟨template, definition, isText, ⟨body, fields, found, given, made⟩, added⟩ :=
    instantiated_of_createNamed created
  obtain ⟨millis, content, read, rfl, isId⟩ := ruleId_of_fromTemplate found
    (fun field member => unnamed field (mem_of_overridesOf given field member)) made
  have isNamed : rule.ruleId = generatedId template millis := ruleId_of_add isId added
  obtain ⟨-, put⟩ := add_cases added
  have others : ∀ other, other ≠ rule.ruleId -> after.get? other = store.get? other := by
    intro other different
    rw [get?, put]
    exact Entries.get?_put_other _ _ different.symm
  obtain ⟨grows, stays⟩ := grows_of_put put
  refine ⟨⟨template, millis, isText, read, ?_⟩, ?_, others, ⟨?_, ?_⟩, stays⟩
  next =>
    intro other otherMillis
    rw [isNamed]
    exact generatedId_inj
  next =>
    rw [get?, put]
    exact Entries.get?_put_same _ _ _
  next =>
    intro absent
    refine ⟨grows absent, fun ruleId old isStored => ?_⟩
    have different : ruleId ≠ rule.ruleId := by
      rintro rfl
      rw [contains, Entries.has, <- get?, isStored] at absent
      cases absent
    rw [others ruleId different, isStored]
  next =>
    rintro ⟨grown, -⟩
    cases known : store.contains rule.ruleId with
    | false => rfl
    | true =>
      have sameSize := congrArg List.length (stays known)
      simp only [ids, Entries.keys, List.length_map] at sameSize
      rw [size, size] at grown
      omega

section Examples

def warmStore : RuleStore :=
  RuleStore.empty.after
    (.add (universal 0) (.mapping [("rule_id", .text "mine"), ("condition", .text "value > 5"),
      ("severity", .text "info")])) |>.after
    (.createFromTemplate (universal 1500000) (universal 1500000) (.text "motion_detected") .null)

def told (outcome : Except StoreFault (Rule × RuleStore)) : Option (String × Nat × Option String) :=
  outcome.toOption.map fun made =>
    (made.1.ruleId, made.2.size, (made.2.get? made.1.ruleId).map Rule.condition)

theorem exists_of_told {outcome : Except StoreFault (Rule × RuleStore)}
    {found : String × Nat × Option String} (computed : told outcome = some found) :
    ∃ rule after, outcome = .ok (rule, after) ∧ rule.ruleId = found.1 ∧
      after.size = found.2.1 ∧ (after.get? rule.ruleId).map Rule.condition = found.2.2 := by
  cases outcome with
  | error fault => cases computed
  | ok made =>
    obtain rfl := Option.some.inj computed
    exact ⟨made.1, made.2, rfl, rfl, rfl, rfl⟩

/-- One template at a later millisecond, with an empty id among the overrides. -/
theorem createNamed_grows_later :
    let overrides : Value := .mapping [("id", .text ""), ("enabled", .bool false)]
    LeavesUnnamed overrides ∧
      ∃ rule after, warmStore.createNamed (universal 1501000) (universal 1501001)
          (.text "motion_detected") overrides = .ok (rule, after) ∧
        rule.ruleId = "motion_detected_1501" ∧ after.size = warmStore.size + 1 ∧
        ∀ ruleId old, warmStore.get? ruleId = some old -> after.get? ruleId = some old := by
  intro overrides
  have unnamed : LeavesUnnamed overrides := by decide
  have computed : told (warmStore.createNamed (universal 1501000) (universal 1501001)
      (.text "motion_detected") overrides) =
        some ("motion_detected_1501", 3, some "value == 1") := by decide +kernel
  obtain ⟨rule, after, created, isNamed, -⟩ := exists_of_told computed
  obtain ⟨-, -, -, grows, -⟩ := createNamed_grows_iff _ _ _ _ _ _ _ unnamed created
  have absent : warmStore.contains rule.ruleId = false := by
    rw [isNamed]
    decide +kernel
  obtain ⟨grown, kept⟩ := grows.mp absent
  exact ⟨unnamed, rule, after, created, isNamed, grown, kept⟩

/-- Two rules that are made of one template within a millisecond: the second takes the place of the
first, where the store should hold both. -/
theorem createNamed_overwrites :
    let overrides : Value := .mapping [("condition", .text "value > 9")]
    LeavesUnnamed overrides ∧
      ∃ rule after, warmStore.createNamed (universal 1500999) (universal 1500999)
          (.text "motion_detected") overrides = .ok (rule, after) ∧
        warmStore.contains rule.ruleId = true ∧ after.size = warmStore.size ∧
        (warmStore.get? rule.ruleId).map Rule.condition = some "value == 1" ∧
        (after.get? rule.ruleId).map Rule.condition = some "value > 9" := by
  intro overrides
  have computed : told (warmStore.createNamed (universal 1500999) (universal 1500999)
      (.text "motion_detected") overrides) =
        some ("motion_detected_1500", 2, some "value > 9") := by decide +kernel
  obtain ⟨rule, after, created, isNamed, isSize, isCondition⟩ := exists_of_told computed
  refine ⟨by decide, rule, after, created, ?_, ?_, ?_, isCondition⟩
  next =>
    rw [isNamed]
    decide +kernel
  next =>
    rw [isSize]
    decide +kernel
  next =>
    rw [isNamed]
    decide +kernel

end Examples

end RuleStore

end SensorAlerting
