import SensorAlerting.Proofs.Entries
import SensorAlerting.RuleStore.Data

set_option autoImplicit false

/-!
Rule definitions in their normal form, with every field under its canonical name. What a field holds
then is told by the definition as a mapping: the order of its fields, of which normalization takes
one after another, makes no difference, neither to the fields nor to what is wrong with them.
-/

namespace SensorAlerting.Rule.Definition

theorem canonicalName_canonicalName (name : String) :
    canonicalName (canonicalName name) = canonicalName name := by
  simp only [canonicalName]
  split <;> (try split) <;> (try split) <;> simp_all

structure IsNormal (fields : Entries String Value) : Prop where
  distinct : Entries.Distinct fields
  canonical : ∀ entry ∈ fields, canonicalName entry.1 = entry.1

theorem IsNormal.put {fields : Entries String Value} (normal : IsNormal fields) {name : String}
    (canonical : canonicalName name = name) (value : Value) :
    IsNormal (Entries.put fields name value) where
  distinct := normal.distinct.put name value
  canonical entry member := by
    obtain rfl | before := Entries.mem_put member
    next => exact canonical
    next => exact normal.canonical entry before

theorem takeOver_cases (normal : Entries String Value) (field : String × Value) :
    takeOver normal field = normal ∨
      takeOver normal field = Entries.put normal (canonicalName field.1) field.2 := by
  unfold takeOver
  dsimp only
  split
  next => exact .inl rfl
  next => exact .inr rfl

theorem mem_normalize {fields : Entries String Value} {entry : String × Value}
    (member : entry ∈ normalize fields) :
    ∃ field ∈ fields, entry = (canonicalName field.1, field.2) := by
  have carried : ∀ (later normal : Entries String Value), entry ∈ later.foldl takeOver normal ->
      entry ∈ normal ∨ ∃ field ∈ later, entry = (canonicalName field.1, field.2) := by
    intro later
    induction later with
    | nil => exact fun normal given => .inl given
    | cons field rest ih =>
      intro normal given
      obtain before | ⟨other, isLater, same⟩ := ih (takeOver normal field) given
      next =>
        obtain kept | taken := takeOver_cases normal field
        next => exact .inl (kept ▸ before)
        next =>
          rw [taken] at before
          obtain isField | earlier := Entries.mem_put before
          next => exact .inr ⟨field, List.mem_cons_self, isField⟩
          next => exact .inl earlier
      next => exact .inr ⟨other, List.mem_cons_of_mem field isLater, same⟩
  obtain nothing | found := carried fields [] member
  next => cases nothing
  next => exact found

theorem isNormal_normalize (fields : Entries String Value) : IsNormal (normalize fields) := by
  have carried : ∀ normal : Entries String Value, IsNormal normal ->
      IsNormal (fields.foldl takeOver normal) := by
    induction fields with
    | nil => exact fun normal given => given
    | cons field rest ih =>
      intro normal given
      apply ih
      obtain kept | taken := takeOver_cases normal field
      next => rwa [kept]
      next =>
        rw [taken]
        exact given.put (canonicalName_canonicalName field.1) field.2
  exact carried [] ⟨List.nodup_nil, fun entry member => by cases member⟩

theorem IsNormal.normalize_eq {fields : Entries String Value} (normal : IsNormal fields) :
    normalize fields = fields := by
  have carried : ∀ later before : Entries String Value, IsNormal (before ++ later) ->
      later.foldl takeOver before = before ++ later := by
    intro later
    induction later with
    | nil => exact fun before _ => (List.append_nil before).symm
    | cons entry rest ih =>
      intro before both
      have fresh := both.distinct.fresh
      have same : canonicalName entry.1 = entry.1 := both.canonical entry (by simp)
      have put : takeOver before entry = before ++ [entry] := by
        have none : Entries.has before entry.1 = false := by
          rw [Entries.has, Entries.get?_eq_none.mpr fresh]
          rfl
        simp [takeOver, same, none, Entries.put_fresh fresh]
      rw [List.foldl_cons, put, ih (before ++ [entry]) (by simpa using both)]
      simp
  exact carried fields [] normal

def otherNames : Entries String String :=
  [("rule_id", "id"), ("severity", "alert_level"), ("channels", "actions")]

def aliasOf? (name : String) : Option String := Entries.get? otherNames name

/-- What a definition gives for a field: what stands under its own name, or else under the other. -/
def given? (fields : Entries String Value) (name : String) : Option Value :=
  (Entries.get? fields name).or ((aliasOf? name).bind (Entries.get? fields))

theorem aliasOf?_canonicalName {name : String} (isAlias : name ≠ canonicalName name) :
    aliasOf? (canonicalName name) = some name := by
  simp only [canonicalName] at isAlias ⊢
  split <;> (try split) <;> (try split) <;> simp_all [aliasOf?, otherNames, Entries.get?]

theorem canonicalName_of_aliasOf? {name other : String} (isAlias : aliasOf? name = some other) :
    canonicalName other = name := by
  have all : ∀ pair ∈ otherNames, canonicalName pair.2 = pair.1 := by decide
  exact all (name, other) (Entries.mem_of_get? isAlias)

section Taking

variable {fields normal : Entries String Value} {field : String × Value}

theorem given?_append_other {name : String} (canonical : canonicalName name = name)
    (other : canonicalName field.1 ≠ name) :
    given? (fields ++ [field]) name = given? fields name := by
  have notName : field.1 ≠ name := by
    intro same
    exact other (same ▸ canonical)
  have notAlias : ∀ short, aliasOf? name = some short -> field.1 ≠ short := by
    rintro short isAlias rfl
    exact other (canonicalName_of_aliasOf? isAlias)
  have found : ∀ key, field.1 ≠ key ->
      Entries.get? (fields ++ [field]) key = Entries.get? fields key := by
    intro key apart
    simp [Entries.get?, List.find?_append, apart]
  rw [given?, given?, found name notName]
  cases isAlias : aliasOf? name with
  | none => rfl
  | some short => rw [Option.bind_some, Option.bind_some, found short (notAlias short isAlias)]

/-- A field that is given anew is what is given for it, unless it goes by its other name and its own
one was given before. -/
theorem given?_append_same (fresh : field.1 ∉ Entries.keys fields) :
    given? (fields ++ [field]) (canonicalName field.1) =
      if field.1 = canonicalName field.1 then some field.2
      else (Entries.get? fields (canonicalName field.1)).or (some field.2) := by
  have absent := Entries.get?_eq_none.mpr fresh
  have last : Entries.get? (fields ++ [field]) field.1 = some field.2 := by
    simp only [Entries.get?, Option.map_eq_none_iff] at absent
    simp [Entries.get?, List.find?_append, absent]
  by_cases isCanonical : field.1 = canonicalName field.1
  next => rw [if_pos isCanonical, given?, <- isCanonical, last, Option.some_or]
  next =>
    have before : Entries.get? (fields ++ [field]) (canonicalName field.1) =
        Entries.get? fields (canonicalName field.1) := by
      simp [Entries.get?, List.find?_append, isCanonical]
    rw [if_neg isCanonical, given?, before, aliasOf?_canonicalName isCanonical, Option.bind_some,
      last]

theorem get?_takeOver (fresh : field.1 ∉ Entries.keys fields)
    (agrees : ∀ name, canonicalName name = name ->
      Entries.get? normal name = given? fields name) :
    ∀ name, canonicalName name = name ->
      Entries.get? (takeOver normal field) name = given? (fields ++ [field]) name := by
  intro name canonical
  by_cases about : canonicalName field.1 = name
  next =>
    subst about
    have before := agrees _ canonical
    rw [given?_append_same fresh, takeOver, Entries.has, before]
    by_cases isCanonical : field.1 = canonicalName field.1
    next => simp [<- isCanonical]
    next =>
      -- Only the own name of the field can have been given before it: its other name is this one.
      have absent := Entries.get?_eq_none.mpr fresh
      have own : given? fields (canonicalName field.1) =
          Entries.get? fields (canonicalName field.1) := by
        rw [given?, aliasOf?_canonicalName isCanonical, Option.bind_some, absent, Option.or_none]
      rw [if_neg isCanonical, own]
      cases found : Entries.get? fields (canonicalName field.1) with
      | none => simp
      | some value =>
        simp only [Option.isSome_some, Bool.true_and, bne_iff_ne, ne_eq, isCanonical,
          not_false_eq_true, if_true]
        rw [before, own, found, Option.or_some, Option.getD_some]
  next =>
    rw [given?_append_other canonical about, <- agrees name canonical]
    obtain kept | taken := takeOver_cases normal field
    next => rw [kept]
    next => rw [taken, Entries.get?_put_other _ _ about]

/-- What a normalized definition holds under a canonical name is what was given for it. -/
theorem get?_normalize (distinct : Entries.Distinct fields) {name : String}
    (canonical : canonicalName name = name) :
    Entries.get? (normalize fields) name = given? fields name := by
  have carried : ∀ later before normal : Entries String Value,
      Entries.Distinct (before ++ later) ->
      (∀ name, canonicalName name = name -> Entries.get? normal name = given? before name) ->
      ∀ name, canonicalName name = name ->
        Entries.get? (later.foldl takeOver normal) name = given? (before ++ later) name := by
    intro later
    induction later with
    | nil =>
      intro before normal _ agrees
      simpa using agrees
    | cons field rest ih =>
      intro before normal unique agrees
      have fresh := unique.fresh
      have split : before ++ field :: rest = before ++ [field] ++ rest := by simp
      rw [split] at unique ⊢
      exact ih _ _ unique (get?_takeOver fresh agrees)
  have nothing : ∀ name : String, canonicalName name = name ->
      Entries.get? ([] : Entries String Value) name = given? [] name := by
    intro name _
    cases isAlias : aliasOf? name <;> simp [given?, isAlias]
  exact carried fields [] [] distinct nothing name canonical

theorem get?_normalize_alias {name : String} (isAlias : canonicalName name ≠ name) :
    Entries.get? (normalize fields) name = none := by
  rw [Entries.get?_eq_none]
  intro member
  obtain ⟨entry, isEntry, rfl⟩ := List.mem_map.mp member
  exact isAlias ((isNormal_normalize fields).canonical entry isEntry)

end Taking

section Order

variable {fields others : Entries String Value}

theorem given?_of_perm (distinct : Entries.Distinct fields) (perm : List.Perm others fields)
    (name : String) : given? others name = given? fields name := by
  have same : Entries.get? others = Entries.get? fields :=
    funext fun key => Entries.get?_of_perm distinct perm key
  rw [given?, given?, same]

theorem get?_normalize_of_perm (distinct : Entries.Distinct fields)
    (perm : List.Perm others fields) (name : String) :
    Entries.get? (normalize others) name = Entries.get? (normalize fields) name := by
  by_cases canonical : canonicalName name = name
  next =>
    rw [get?_normalize distinct canonical, get?_normalize (distinct.perm perm) canonical,
      given?_of_perm distinct perm]
  next => rw [get?_normalize_alias canonical, get?_normalize_alias canonical]

theorem sortNames_of_perm {names same : List String} (perm : List.Perm names same) :
    sortNames names = sortNames same := by
  have sorted : ∀ names, (sortNames names).Pairwise fun left right => left <= right := by
    intro names
    have trans : ∀ first second third : String, decide (first <= second) = true ->
        decide (second <= third) = true -> decide (first <= third) = true :=
      fun first second third left right =>
        decide_eq_true (String.le_trans (of_decide_eq_true left) (of_decide_eq_true right))
    have total : ∀ first second : String,
        (decide (first <= second) || decide (second <= first)) = true :=
      fun first second => by simpa using String.le_total first second
    exact (List.pairwise_mergeSort trans total names).imp of_decide_eq_true
  apply List.Perm.eq_of_pairwise _ (sorted names) (sorted same)
  next =>
    exact (List.mergeSort_perm names _).trans (perm.trans (List.mergeSort_perm same _).symm)
  next => exact fun left right _ _ before after => String.le_antisymm before after

theorem checkUnknown_of_perm (perm : List.Perm others fields) :
    checkUnknown others = checkUnknown fields := by
  have unknown := (perm.map Prod.fst).filter fun name => !fieldNames.contains name
  unfold checkUnknown Entries.keys
  dsimp only
  rw [unknown.isEmpty_eq, sortNames_of_perm unknown]

theorem violations_of_perm (distinct : Entries.Distinct fields) (perm : List.Perm others fields) :
    violations others = violations fields := by
  have same : Entries.get? others = Entries.get? fields :=
    funext fun key => Entries.get?_of_perm distinct perm key
  simp only [violations, checkText, same, checkUnknown_of_perm perm]

end Order

/-- A definition says the same in whatever order its fields stand. Normalized, it holds for each
field what stands under its own name, or else under its other one, and nothing under other names;
nothing is left to normalize then, and the same violations are found in the same order, if the
definition can be judged at all. -/
theorem normalize_in_any_order {fields others : Entries String Value}
    (distinct : Entries.Distinct fields) (perm : List.Perm others fields) :
    (∀ name, Entries.get? (normalize others) name =
        if canonicalName name = name then given? fields name else none) ∧
      IsNormal (normalize others) ∧
      List.Perm (normalize others) (normalize fields) ∧
      normalize (normalize others) = normalize others ∧
      violations (normalize others) = violations (normalize fields) ∧
      RuleStore.unjudged? (.mapping others) = RuleStore.unjudged? (.mapping fields) := by
  have normal := isNormal_normalize others
  have samePlace := get?_normalize_of_perm distinct perm
  have sameFields : List.Perm (normalize others) (normalize fields) :=
    Entries.perm_of_get? normal.distinct (isNormal_normalize fields).distinct samePlace
  refine ⟨fun name => ?_, normal, sameFields, normal.normalize_eq, ?_, ?_⟩
  next =>
    rw [samePlace]
    split
    next canonical => exact get?_normalize distinct canonical
    next isAlias => exact get?_normalize_alias isAlias
  next => exact violations_of_perm (isNormal_normalize fields).distinct sameFields
  next =>
    unfold RuleStore.unjudged? RuleStore.hasUnshownCondition RuleStore.namedFields
    rw [samePlace]
    rfl

def mixedFields : Entries String Value :=
  [("id", .text "late"), ("zone", .null), ("rule_id", .text "gas"), ("alert_level", .text "loud"),
    ("area", .null)]

def turnedFields : Entries String Value := mixedFields.reverse

theorem normalize_in_any_order_turned :
    Entries.Distinct mixedFields ∧ List.Perm turnedFields mixedFields ∧
      Entries.get? (normalize turnedFields) "rule_id" = some (.text "gas") ∧
      Entries.get? (normalize turnedFields) "severity" = some (.text "loud") ∧
      Entries.get? (normalize turnedFields) "id" = none ∧
      violations (normalize turnedFields) =
        [.conditionMissing, .severityUnknown, .unknownFields ["area", "zone"]] := by
  have distinct : Entries.Distinct mixedFields := by
    unfold Entries.Distinct
    decide
  have perm : List.Perm turnedFields mixedFields := List.reverse_perm mixedFields
  obtain ⟨holds, -, -, -, same, -⟩ := normalize_in_any_order distinct perm
  have unknown : sortNames ["zone", "area"] = ["area", "zone"] := by
    simp [sortNames, List.mergeSort]
  refine ⟨distinct, perm, (holds "rule_id").trans (by rfl), (holds "severity").trans (by rfl),
    (holds "id").trans (by rfl), ?_⟩
  rw [same, <- unknown]
  rfl

end SensorAlerting.Rule.Definition
