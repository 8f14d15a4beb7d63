import SensorAlerting.Proofs.RuleStore.Histories
import SensorAlerting.Proofs.Time.Stamp

set_option autoImplicit false

/-!
Rules that are written out and read back. What is written names every field by its own name and in
the form in which its check takes it, so that only the time of change is lost on the way.
-/

namespace SensorAlerting.RuleStore

open SensorAlerting.Number SensorAlerting.Time SensorAlerting.Rule.Definition

/-- The rule that is made, at some time, from what another was written as. -/
def madeAgain (now : Moment) (rule : Rule) : Rule :=
  { rule with throttleGiven := some rule.throttleMinutes, updatedAt := now }

section Fields

variable {rule : Rule}

theorem normalize_toFields (rule : Rule) :
    Rule.Definition.normalize rule.toFields = rule.toFields := by
  simp [Rule.Definition.normalize, Rule.toFields, takeOver, canonicalName, Entries.put,
    Entries.has, Entries.get?]

theorem unjudged?_toValue (rule : Rule) : unjudged? rule.toValue = none := by
  have shown : hasUnshownCondition rule.toValue = false := by
    rw [hasUnshownCondition, Rule.toValue, namedFields, normalize_toFields]
    rfl
  rw [unjudged?, shown]
  rfl

theorem source_ne_empty (compiled : HasCondition rule) : rule.condition ≠ "" := by
  obtain ⟨condition, -, compiles⟩ := compiled
  intro isEmpty
  have noPath : Condition.compile? "" = none := by
    simp [Condition.compile?, Condition.takePath?, Condition.takeName?]
  simp [Condition.compile, isEmpty, noPath] at compiles

theorem compile?_source (compiled : HasCondition rule) :
    Condition.compile? rule.condition = rule.compiled := by
  obtain ⟨condition, isCompiled, compiles⟩ := compiled
  cases found : Condition.compile? rule.condition with
  | none => simp [Condition.compile, found] at compiles
  | some other =>
    simp only [Condition.compile, found, Except.ok.injEq] at compiles
    rw [isCompiled, compiles]

theorem checkThrottle_of_le {minutes : Float} (atLeast : 0 <= minutes) :
    checkThrottle (some (.float minutes)) = [] := by
  simp [checkThrottle, not_lt_nought atLeast]

theorem checkText_ofText? {fields : Entries String Value} {name : String} {content : Option String}
    (given : Entries.get? fields name = some (Value.ofText? content)) :
    checkText fields name = [] := by
  cases content <;> simp [checkText, given, Value.ofText?]

theorem checkSeverity_name (level : Severity) : checkSeverity (.text level.name) = [] := by
  cases level <;> decide

theorem checkChannels_texts (channels : List String) :
    checkChannels (.list (channels.map .text)) = [] := by
  simp [checkChannels, Value.text?]

theorem violations_toFields {history : List Change} (kept : Kept history rule.ruleId rule) :
    violations rule.toFields = [] := by
  have noRuleId : checkRuleId (.text rule.ruleId) = [] := by
    simp [checkRuleId, Value.isEmpty, kept.named]
  have noCondition : checkCondition (.text rule.condition) = [] := by
    obtain ⟨condition, -, compiles⟩ := kept.compiled
    simp [checkCondition, Value.isEmpty, source_ne_empty kept.compiled, compiles]
  have sensorType : checkText rule.toFields "sensor_type" = [] := checkText_ofText? rfl
  have deviceId : checkText rule.toFields "device_id" = [] := checkText_ofText? rfl
  have description : checkText rule.toFields "description" = [] := checkText_ofText? rfl
  simp only [violations, List.append_eq_nil_iff]
  exact ⟨⟨⟨⟨⟨⟨⟨⟨⟨noRuleId, noCondition⟩, checkSeverity_name rule.severity⟩,
    checkChannels_texts rule.channels⟩, checkThrottle_of_le kept.throttle.1⟩, sensorType⟩,
    deviceId⟩, description⟩, rfl⟩, rfl⟩

def stampedFields (now : Moment) (rule : Rule) : Entries String Value :=
  Entries.put rule.toFields "updated_at" (.moment now)

theorem stampFields_toFields (now : Moment) (rule : Rule) :
    stampFields none now rule.toFields = stampedFields now rule := rfl

theorem text_some {content : String} (fields : Entries String Value) (name : String)
    (given : Entries.get? fields name = some (.text content)) (notEmpty : content ≠ "") :
    Check.required fields name Check.someText = .good content := by
  simp [Check.required, given, Check.someText, Check.text, Checked.ensure, Checked.inside, notEmpty]

theorem text_optional {content : Option String} (fields : Entries String Value) (name : String)
    (given : Entries.get? fields name = some (Value.ofText? content)) :
    Check.defaulted fields name none (Check.optional Check.text) = .good content := by
  cases content <;>
    simp [Check.defaulted, given, Value.ofText?, Check.optional, Check.text, Checked.inside,
      Functor.map]

theorem severity_required {level : Severity} (fields : Entries String Value)
    (given : Entries.get? fields "severity" = some (.text level.name)) :
    Check.required fields "severity" (Check.oneOf Severity.choices) = .good level := by
  rw [Check.required, given]
  cases level <;> rfl

theorem each_texts (contents : List String) (index : Nat) :
    Check.each Check.text index (contents.map .text) = .good contents := by
  induction contents generalizing index with
  | nil => rfl
  | cons first rest ih =>
    rw [List.map_cons, Check.each, ih]
    rfl

theorem throttle_from {minutes : Float} (atLeast : 0 <= minutes) :
    Check.numberFrom 0 (.float minutes) = .good minutes := by
  have nought : (ofInt? 0).getD 0 = 0 := by decide +kernel
  simp [Check.numberFrom, Check.number, Check.decoded, Checked.ensure, nought, atLeast]

theorem ofFields_stampedFields {history : List Change} (kept : Kept history rule.ruleId rule)
    (readsBack : readStamp rule.createdAt.zuluText = .ok rule.createdAt) (now : Moment) :
    Rule.ofFields now (stampedFields now rule) = .good (madeAgain now rule) := by
  have ruleId := text_some (stampedFields now rule) "rule_id" rfl kept.named
  have condition := text_some (stampedFields now rule) "condition" rfl
    (source_ne_empty kept.compiled)
  have sensorType := text_optional (stampedFields now rule) "sensor_type" rfl
  have deviceId := text_optional (stampedFields now rule) "device_id" rfl
  have description := text_optional (stampedFields now rule) "description" rfl
  have severity := severity_required (stampedFields now rule) rfl
  have channels : Check.defaulted (stampedFields now rule) "channels" []
      (Check.sequenceOf Check.text) = .good rule.channels :=
    congrArg (Checked.inside "channels") (each_texts rule.channels 0)
  have throttle : Check.defaulted (stampedFields now rule) "throttle_minutes" none
      (fun value => some <$> Check.numberFrom 0 value) = .good (some rule.throttleMinutes) :=
    congrArg (fun read => Checked.inside "throttle_minutes" (some <$> read))
      (throttle_from kept.throttle.1)
  have enabled : Check.defaulted (stampedFields now rule) "enabled" true Check.flag =
      .good rule.enabled := rfl
  have createdAt : Check.defaulted (stampedFields now rule) "created_at" now Check.moment =
      .good rule.createdAt :=
    congrArg (fun read => Checked.inside "created_at" (Check.momentOfText read)) readsBack
  have updatedAt : Check.defaulted (stampedFields now rule) "updated_at" now Check.moment =
      .good now := rfl
  have known : Check.unknown (stampedFields now rule) Rule.fieldNames = [] := rfl
  rw [Rule.ofFields, ruleId, sensorType, deviceId, condition, severity, channels, throttle, enabled,
    description, createdAt, updatedAt, known]
  simp [Functor.map, Seq.seq, Checked.apply, Checked.also, Rule.build, madeAgain,
    compile?_source kept.compiled]

/-- A rule that is read from what it was written as is the same but for its time of change. -/
theorem judge_toValue {history : List Change} (kept : Kept history rule.ruleId rule)
    (readsBack : readStamp rule.createdAt.zuluText = .ok rule.createdAt)
    {existing : String -> Option Rule} (fresh : existing rule.ruleId = none) (now : Moment) :
    judge existing now rule.toValue = .ok (madeAgain now rule) := by
  have named : ruleId? rule.toFields = some rule.ruleId := rfl
  rw [Rule.toValue, judge, normalize_toFields, violations_toFields kept, named, Option.bind_some,
    fresh, stampFields_toFields, ofFields_stampedFields kept readsBack]
  rfl

end Fields

section Import

variable {history : List Change}

def madeOf (times : List Moment) (entries : Entries String Rule) : Entries String Rule :=
  List.zipWith (fun now entry => (entry.1, madeAgain now entry.2)) times entries

theorem importOne_fresh {store : RuleStore} {now : Moment} {definition : Value} {rule : Rule}
    (judged : judge store.get? now definition = .ok rule) (fresh : rule.ruleId ∉ store.ids)
    (report : ImportReport) :
    importOne (store, report) (now, definition) =
      (⟨store.rules ++ [(rule.ruleId, rule)]⟩,
        { report with imported := report.imported + 1 }) := by
  simp [importOne, judged, Entries.put_fresh fresh]

theorem import_toValue (entries : Entries String Rule)
    (kept : ∀ entry ∈ entries, Kept history entry.1 entry.2)
    (readsBack : ∀ entry ∈ entries,
      readStamp entry.2.createdAt.zuluText = .ok entry.2.createdAt)
    (before : Entries String Rule) (distinct : (Entries.keys (before ++ entries)).Nodup)
    (times : List Moment) (enough : times.length = entries.length) (report : ImportReport) :
    (times.zip (entries.map fun entry => entry.2.toValue)).foldl importOne (⟨before⟩, report) =
      (⟨before ++ madeOf times entries⟩,
        { report with imported := report.imported + entries.length }) := by
  induction entries generalizing before times report with
  | nil =>
    obtain rfl := List.eq_nil_of_length_eq_zero enough
    simp [madeOf]
  | cons entry rest ih =>
    cases times with
    | nil => cases enough
    | cons now later =>
      obtain ⟨ruleId, rule⟩ := entry
      have first : Kept history ruleId rule := kept (ruleId, rule) List.mem_cons_self
      obtain rfl : rule.ruleId = ruleId := first.own
      have fresh : rule.ruleId ∉ Entries.keys before := by
        intro twice
        rw [Entries.keys, List.map_append] at distinct
        exact (List.nodup_append.mp distinct).2.2 _ twice _ List.mem_cons_self rfl
      have absent : RuleStore.get? ⟨before⟩ rule.ruleId = none := Entries.get?_eq_none.mpr fresh
      have judged := judge_toValue first (readsBack (rule.ruleId, rule) List.mem_cons_self)
        absent now
      rw [List.map_cons, List.zip_cons_cons, List.foldl_cons,
        importOne_fresh judged fresh,
        ih (fun entry member => kept entry (List.mem_cons_of_mem _ member))
          (fun entry member => readsBack entry (List.mem_cons_of_mem _ member)) _
          (by simpa [Entries.keys, madeAgain] using distinct) later (Nat.succ.inj enough)]
      simp [madeOf, madeAgain, Nat.add_comm, Nat.add_left_comm]

end Import

structure Alike (old new : Rule) : Prop where
  ruleId : new.ruleId = old.ruleId
  sensorType : new.sensorType = old.sensorType
  deviceId : new.deviceId = old.deviceId
  condition : new.condition = old.condition
  compiled : new.compiled = old.compiled
  severity : new.severity = old.severity
  channels : new.channels = old.channels
  throttle : new.throttleMinutes = old.throttleMinutes
  enabled : new.enabled = old.enabled
  description : new.description = old.description
  createdAt : new.createdAt = old.createdAt

theorem madeOf_alike (times : List Moment) (entries : Entries String Rule)
    (enough : times.length = entries.length) :
    List.Forall₂ Alike (Entries.items entries) (Entries.items (madeOf times entries)) ∧
      Entries.keys (madeOf times entries) = Entries.keys entries := by
  induction entries generalizing times with
  | nil => simp [madeOf, Entries.items, Entries.keys]
  | cons entry rest ih =>
    cases times with
    | nil => cases enough
    | cons now later =>
      obtain ⟨alike, same⟩ := ih later (Nat.succ.inj enough)
      have first : Alike entry.2 (madeAgain now entry.2) :=
        ⟨rfl, rfl, rfl, rfl, rfl, rfl, rfl, rfl, rfl, rfl, rfl⟩
      exact ⟨.cons first alike, congrArg (entry.1 :: ·) same⟩

/-- Whatever calls have led to a store, importing all that it exports into an empty one, at any
times, fails for no rule and yields the same rules in the same order. -/
theorem import_of_export (calls : List Call) (times : List Moment)
    (each : times.length = (calls.foldl after .empty).size)
    (readsBack : ∀ rule ∈ (calls.foldl after .empty).toList,
      readStamp rule.createdAt.zuluText = .ok rule.createdAt) :
    let store := calls.foldl after .empty
    ∃ exported, store.exportRules .everything = .ok exported ∧
      reached (times.zip exported) = times.zip exported ∧
      ∃ copy, RuleStore.empty.bulkImport (times.zip exported) =
          (copy, { imported := store.size, failed := 0, errors := [] }) ∧
        copy.ids = store.ids ∧ List.Forall₂ Alike store.toList copy.toList := by
  dsimp only
  have agrees := agrees_empty.run calls
  rw [List.nil_append] at agrees
  generalize calls.foldl after .empty = store at *
  have unique : (Entries.keys store.rules).Nodup := by
    change store.ids.Nodup
    rw [agrees.order]
    exact nodup_distinct _
  have kept : ∀ entry ∈ store.rules, Kept (historyOf .empty calls) entry.1 entry.2 :=
    fun entry member => agrees.kept _ _ (Entries.get?_of_mem unique member)
  have restored : ∀ entry ∈ store.rules,
      readStamp entry.2.createdAt.zuluText = .ok entry.2.createdAt :=
    fun entry member => readsBack entry.2 (List.mem_map_of_mem member)
  have imported := import_toValue store.rules kept restored [] unique times each
    { imported := 0, failed := 0, errors := [] }
  obtain ⟨alike, sameIds⟩ := madeOf_alike times store.rules each
  refine ⟨store.toList.map Rule.toValue, ?_, ?_, ⟨madeOf times store.rules⟩, ?_, sameIds, alike⟩
  next => simp [exportRules, list, RuleFilter.everything, bind, Except.bind, Except.map]
  next =>
    refine reached_of_all fun given member => ?_
    obtain ⟨rule, -, isValue⟩ := List.mem_map.mp (List.of_mem_zip member).2
    rw [<- isValue]
    exact unjudged?_toValue rule
  next => simpa [bulkImport, empty, toList, Entries.items, size, Function.comp_def] using imported

/-- A rule that never fires twice, made ahead of universal time, and one that is not in use and has
no channels. -/
def mixedCalls : List Call :=
  [.add (universal 0) (.mapping [("id", .text "hot"), ("condition", .text "value > 30.5"),
      ("severity", .text "critical"), ("channels", .list [.text "sms", .text "email"]),
      ("throttle_minutes", .float (1 / 0)),
      ("created_at", .text "2024-02-29T23:59:59.000001+05:30")]),
    .add (universal 1) (.mapping [("rule_id", .text "cold"), ("condition", .text "value < 0"),
      ("alert_level", .text "info"), ("actions", .null), ("enabled", .bool false)])]

theorem import_of_mixed_export :
    let store := mixedCalls.foldl after .empty
    let times := [universal 7, universal 8]
    times.length = store.size ∧ store.ids = ["hot", "cold"] ∧
      (∀ rule ∈ store.toList, readStamp rule.createdAt.zuluText = .ok rule.createdAt) ∧
      ∃ exported, store.exportRules .everything = .ok exported ∧
        reached (times.zip exported) = times.zip exported ∧
        ∃ copy, RuleStore.empty.bulkImport (times.zip exported) =
            (copy, { imported := store.size, failed := 0, errors := [] }) ∧
          copy.ids = store.ids ∧ List.Forall₂ Alike store.toList copy.toList := by
  have each : [universal 7, universal 8].length = (mixedCalls.foldl after .empty).size := by
    decide +kernel
  have plain : ∀ rule ∈ (mixedCalls.foldl after .empty).toList, rule.createdAt.IsPlain := by
    decide +kernel
  have readsBack : ∀ rule ∈ (mixedCalls.foldl after .empty).toList,
      readStamp rule.createdAt.zuluText = .ok rule.createdAt :=
    fun rule member => readStamp_zuluText (plain rule member)
  exact ⟨each, by decide +kernel, readsBack, import_of_export mixedCalls _ each readsBack⟩

end SensorAlerting.RuleStore
