import Mathlib.Data.List.Basic
import SensorAlerting.Proofs.Value.Fields
import SensorAlerting.Settings.Overlay

set_option autoImplicit false

/-!
What variables of the environment do to the data of settings. Each that is set puts its value under
one key, at the top or in one section. No two of them put theirs at one place, so that none disturbs
another, and whether they can be applied is told by the data as it was before any of them.
-/

namespace SensorAlerting.Settings

def environmentOf (texts : Entries String String) : Entries String Value :=
  texts.map fun entry => (entry.1, .text entry.2)

def sectionOf (data : Value) (group : String) : Value := (data.field? group).getD (.mapping [])

namespace Override

variable (entry : Override) (texts : Entries String String)

def IsSet : Prop := (Entries.get? texts entry.name).isSome = true

/-- A variable is set to a text that stands for a value. -/
def Sets (value : Value) : Prop :=
  ∃ content, Entries.get? texts entry.name = some content ∧
    entry.parse (.text content) = .ok value

/-- Why a variable cannot be applied to data, if it is set at all: its text stands for no value, or
its section is something else than a mapping. -/
def fault? (data : Value) : Option OverlayFault :=
  match Entries.get? texts entry.name with
  | none => none
  | some content =>
    match entry.parse (.text content), entry.group with
    | .error _, _ => some (.invalid entry.name (Value.text content).literalText)
    | .ok _, none => none
    | .ok _, some group =>
      if (sectionOf data group).isMapping then none else some (.notMapping group)

/-- The key that a variable comes to: at the top its section or its own key, in its section its own
key, in other sections none. -/
def keyIn (level : Option String) : Option String :=
  match level with
  | none => some (entry.group.getD entry.key)
  | some group => if entry.group = some group then some entry.key else none

def Apart (other : Override) : Prop :=
  entry.group.getD entry.key ≠ other.group.getD other.key ∨
    entry.group.isSome = true ∧ other.group.isSome = true ∧ entry.key ≠ other.key

instance : DecidableRel Apart := fun _ _ => inferInstanceAs (Decidable (_ ∨ _))

end Override

section Merging

variable (entries : List Override) (texts : Entries String String)

/-- One level of the data, at the top or in a section, before and after some variables were applied:
what each of them sets is there, and everything else is as it was. -/
structure Overlaid (level : Option String) (before after : Value) : Prop where
  holds : ∀ entry ∈ entries, entry.group = level -> ∀ value, entry.Sets texts value ->
    after.field? entry.key = some value
  kept : ∀ key, (∀ entry ∈ entries, entry.IsSet texts -> entry.keyIn level ≠ some key) ->
    after.field? key = before.field? key
  unnamed : after.unnamed = before.unnamed

def IsBelow (group : String) : Prop :=
  ∀ entry ∈ entries, entry.group = none -> entry.key ≠ group

/-- The data before and after some variables were applied, at both levels. A section in which any of
them has set something is there as a mapping. -/
structure Merged (data result : Value) : Prop where
  isMapping : result.isMapping = true
  top : Overlaid entries texts none data result
  sections : ∀ group, IsBelow entries group ->
    Overlaid entries texts (some group) (sectionOf data group) (sectionOf result group)
  made : ∀ entry ∈ entries, ∀ group, entry.group = some group -> entry.IsSet texts ->
    ∃ content, result.field? group = some content ∧ content.isMapping = true

end Merging

variable {entry other : Override} {entries rest : List Override}
  {texts : Entries String String} {level : Option String} {before between after : Value}
  {data next result : Value}

theorem get?_environmentOf (texts : Entries String String) (name : String) :
    Entries.get? (environmentOf texts) name = (Entries.get? texts name).map .text := by
  induction texts with
  | nil => rfl
  | cons first rest ih =>
    simp only [environmentOf, List.map_cons, Entries.get?_cons] at ih ⊢
    rw [ih]
    split <;> rfl

theorem Override.Sets.isSet {value : Value} (sets : entry.Sets texts value) :
    entry.IsSet texts := by
  obtain ⟨content, found, -⟩ := sets
  simp [IsSet, found]

theorem Override.Sets.unique {value another : Value} (sets : entry.Sets texts value)
    (setsToo : entry.Sets texts another) : value = another := by
  obtain ⟨content, found, read⟩ := sets
  obtain ⟨same, foundToo, readToo⟩ := setsToo
  obtain rfl := Option.some.inj (found.symm.trans foundToo)
  exact Except.ok.inj (read.symm.trans readToo)

theorem Override.Apart.keyIn_ne (apart : entry.Apart other) (here : entry.group = level) :
    other.keyIn level ≠ some entry.key := by
  obtain rfl := here
  intro same
  cases group : entry.group with
  | none => simp_all [keyIn, Apart]
  | some name =>
    simp only [keyIn, group] at same
    split at same
    next alike => simp_all [Apart]
    next => cases same

theorem sectionOf_putField (isMapping : data.isMapping = true) (group name : String)
    (content : Value) :
    sectionOf (data.putField group content) name =
      if group = name then content else sectionOf data name := by
  unfold sectionOf
  split
  next same => rw [<- same, Value.field?_putField_same isMapping, Option.getD_some]
  next different => rw [Value.field?_putField_other different]

namespace Overlaid

theorem of_none (away : ∀ entry ∈ entries, entry.IsSet texts -> entry.group ≠ level) :
    Overlaid entries texts level before before where
  holds entry member here _ sets := absurd here (away entry member sets.isSet)
  kept _ _ := rfl
  unnamed := rfl

theorem trans (first : Overlaid [entry] texts level before between)
    (later : Overlaid rest texts level between after)
    (apart : ∀ other ∈ rest, entry.Apart other) :
    Overlaid (entry :: rest) texts level before after where
  holds one member here value sets := by
    cases List.mem_cons.mp member with
    | inl isFirst =>
      subst isFirst
      rw [later.kept one.key fun other among _ => (apart other among).keyIn_ne here]
      exact first.holds one (by simp) here value sets
    | inr among => exact later.holds one among here value sets
  kept key away := by
    rw [later.kept key fun other among => away other (List.mem_cons_of_mem _ among)]
    exact first.kept key fun other isFirst => away other (by simp_all)
  unnamed := later.unnamed.trans first.unnamed

theorem of_put (isSet : entry.IsSet texts) {name : String} {item : Value}
    (comes : entry.keyIn level = some name)
    (holds : entry.group = level -> ∀ value, entry.Sets texts value ->
      (before.putField name item).field? entry.key = some value) :
    Overlaid [entry] texts level before (before.putField name item) where
  holds one member := by
    obtain rfl := List.mem_singleton.mp member
    exact holds
  kept key away := by
    refine Value.field?_putField_other ?_ item
    rintro rfl
    exact away entry (by simp) isSet comes
  unnamed := Value.unnamed_putField _ _

theorem of_value (isMapping : before.isMapping = true) {value : Value}
    (sets : entry.Sets texts value) (comes : entry.keyIn level = some entry.key) :
    Overlaid [entry] texts level before (before.putField entry.key value) := by
  refine of_put sets.isSet comes fun _ another setsToo => ?_
  rw [Value.field?_putField_same isMapping, sets.unique setsToo]

end Overlaid

/-- What one variable does that can be applied. -/
inductive Override.Applied (entry : Override) (texts : Entries String String)
    (data : Value) : Value -> Prop where
  | unset (unset : ¬ entry.IsSet texts) : Applied entry texts data data
  | atTop {value : Value} (sets : entry.Sets texts value) (top : entry.group = none) :
    Applied entry texts data (data.putField entry.key value)
  | within {value : Value} {group : String} (sets : entry.Sets texts value)
    (inside : entry.group = some group) (solid : (sectionOf data group).isMapping = true) :
    Applied entry texts data
      (data.putField group ((sectionOf data group).putField entry.key value))

def Override.IsPlain (entry : Override) : Prop :=
  ∀ content misuse, entry.parse (.text content) = .error misuse -> misuse = .impossible

theorem Override.apply_cases (plain : entry.IsPlain) (texts : Entries String String)
    (data : Value) :
    (∃ fault, entry.fault? texts data = some fault ∧
      entry.apply (environmentOf texts) data = .error fault) ∨
    (entry.fault? texts data = none ∧
      ∃ next, entry.apply (environmentOf texts) data = .ok next ∧
        entry.Applied texts data next) := by
  unfold apply fault?
  rw [get?_environmentOf]
  cases found : Entries.get? texts entry.name with
  | none => exact .inr ⟨rfl, data, rfl, .unset (by simp [IsSet, found])⟩
  | some content =>
    dsimp only [Option.map_some]
    cases read : entry.parse (.text content) with
    | error misuse =>
      obtain rfl := plain content misuse read
      exact .inl ⟨_, rfl, rfl⟩
    | ok value =>
      have sets : entry.Sets texts value := ⟨content, found, read⟩
      cases group : entry.group with
      | none => exact .inr ⟨rfl, _, rfl, .atTop sets group⟩
      | some name =>
        dsimp only [setIn]
        cases solid : (sectionOf data name).isMapping with
        | true =>
          refine .inr ⟨rfl, _, ?_, .within sets group solid⟩
          exact if_pos solid
        | false =>
          refine .inl ⟨_, rfl, ?_⟩
          exact if_neg (by simpa [sectionOf] using solid)

namespace Override.Applied

theorem isMapping (applied : entry.Applied texts data next) (isMapping : data.isMapping = true) :
    next.isMapping = true := by
  cases applied with
  | unset => exact isMapping
  | atTop => exact Value.isMapping_putField isMapping _ _
  | within => exact Value.isMapping_putField isMapping _ _

theorem merged (applied : entry.Applied texts data next) (isMapping : data.isMapping = true) :
    Merged [entry] texts data next where
  isMapping := applied.isMapping isMapping
  top := by
    cases applied with
    | unset unset =>
      refine .of_none fun one member isSet => ?_
      obtain rfl := List.mem_singleton.mp member
      exact absurd isSet unset
    | atTop sets top => exact .of_value isMapping sets (by simp [keyIn, top])
    | within sets inside solid =>
      exact .of_put sets.isSet (by simp [keyIn, inside]) fun top => by simp [inside] at top
  sections group below := by
    have away (different : entry.IsSet texts -> entry.group ≠ some group)
        {content : Value} :
        Overlaid [entry] texts (some group) content content := by
      refine .of_none fun one member isSet => ?_
      obtain rfl := List.mem_singleton.mp member
      exact different isSet
    cases applied with
    | unset unset => exact away fun isSet => absurd isSet unset
    | atTop sets top =>
      rw [sectionOf_putField isMapping, if_neg (below entry (by simp) top)]
      exact away fun _ => by simp [top]
    | within sets inside solid =>
      rw [sectionOf_putField isMapping]
      split
      next same =>
        subst same
        exact .of_value solid sets (by simp [keyIn, inside])
      next different => exact away fun _ => by simpa [inside] using different
  made one member group here isSet := by
    obtain rfl := List.mem_singleton.mp member
    cases applied with
    | unset unset => exact absurd isSet unset
    | atTop sets top => cases top.symm.trans here
    | within sets inside solid =>
      obtain rfl := Option.some.inj (inside.symm.trans here)
      exact ⟨_, Value.field?_putField_same isMapping _ _, Value.isMapping_putField solid _ _⟩

theorem fault?_eq (applied : entry.Applied texts data next) (isMapping : data.isMapping = true)
    (apart : entry.Apart other) : other.fault? texts next = other.fault? texts data := by
  have solid : ∀ group, other.group = some group ->
      (sectionOf next group).isMapping = (sectionOf data group).isMapping := by
    intro group here
    cases applied with
    | unset => rfl
    | atTop sets top =>
      have different : entry.key ≠ group := by simpa [Apart, top, here] using apart
      rw [sectionOf_putField isMapping, if_neg different]
    | @within _ name sets inside solid =>
      rw [sectionOf_putField isMapping]
      split
      next same =>
        subst same
        rw [solid, Value.isMapping_putField solid]
      next => rfl
  unfold fault?
  split
  next => rfl
  next content _ =>
    cases other.parse (.text content) with
    | error misuse => rfl
    | ok value =>
      cases group : other.group with
      | none => rfl
      | some name =>
        dsimp only
        rw [solid name group]

end Override.Applied

namespace Merged

theorem of_nil (isMapping : data.isMapping = true) : Merged [] texts data data where
  isMapping := isMapping
  top := .of_none (by simp)
  sections _ _ := .of_none (by simp)
  made := by simp

theorem trans (first : Merged [entry] texts data next)
    (later : Merged rest texts next result) (apart : ∀ other ∈ rest, entry.Apart other) :
    Merged (entry :: rest) texts data result where
  isMapping := later.isMapping
  top := first.top.trans later.top apart
  sections group below := by
    have first := first.sections group fun one member => below one (by simp_all)
    have later := later.sections group fun one member => below one (List.mem_cons_of_mem _ member)
    exact first.trans later apart
  made one member group here isSet := by
    cases List.mem_cons.mp member with
    | inr among => exact later.made one among group here isSet
    | inl isFirst =>
      subst isFirst
      -- The section may be written again by a later variable, which then says what it has become.
      by_cases again : ∃ other ∈ rest, other.group = some group ∧ other.IsSet texts
      next =>
        obtain ⟨other, among, hereToo, isSetToo⟩ := again
        exact later.made other among group hereToo isSetToo
      next =>
        have untouched : result.field? group = next.field? group := by
          refine later.top.kept group fun other among isSetToo same => ?_
          refine again ⟨other, among, ?_, isSetToo⟩
          have apart := apart other among
          cases inside : other.group with
          | none => simp_all [Override.Apart, Override.keyIn]
          | some name => simpa [Override.keyIn, inside] using same
        rw [untouched]
        exact first.made one (by simp) group here isSet

end Merged

theorem overlay_cases (plain : ∀ entry ∈ entries, entry.IsPlain)
    (apart : entries.Pairwise Override.Apart) (texts : Entries String String)
    (isMapping : data.isMapping = true) :
    let outcome := entries.foldlM
      (fun data entry => entry.apply (environmentOf texts) data) data
    let firstFault? := entries.findSome? fun entry => entry.fault? texts data
    (∃ fault, firstFault? = some fault ∧ outcome = .error fault) ∨
      (firstFault? = none ∧ ∃ result, outcome = .ok result ∧
        Merged entries texts data result) := by
  -- The data goes from variable to variable, but what may be to blame is told by the data at first:
  -- a variable that is applied does not change what becomes of those apart from it.
  induction entries generalizing data with
  | nil => exact .inr ⟨rfl, data, rfl, .of_nil isMapping⟩
  | cons entry rest ih =>
    obtain ⟨aparts, later⟩ := List.pairwise_cons.mp apart
    dsimp only
    rw [List.foldlM_cons, List.findSome?_cons]
    cases entry.apply_cases (plain entry (by simp)) texts data with
    | inl failed =>
      obtain ⟨fault, faulty, fails⟩ := failed
      rw [faulty, fails]
      exact .inl ⟨fault, rfl, rfl⟩
    | inr applies =>
      obtain ⟨faultless, next, proceeds, applied⟩ := applies
      have sameFaults : (rest.findSome? fun entry => entry.fault? texts data) =
          rest.findSome? fun entry => entry.fault? texts next := by
        rw [<- List.head?_filterMap, <- List.head?_filterMap]
        exact congrArg List.head? (List.filterMap_congr fun other among =>
          (applied.fault?_eq isMapping (aparts other among)).symm)
      rw [faultless, proceeds, sameFaults]
      have ends := @ih next (fun other among => plain other (List.mem_cons_of_mem _ among)) later
        (applied.isMapping isMapping)
      refine ends.imp_right fun ⟨noFault, result, same, merged⟩ => ⟨noFault, result, same, ?_⟩
      exact (applied.merged isMapping).trans merged aparts

theorem parseWhole_plain (content : String) (misuse : Misuse)
    (failed : parseWhole (.text content) = .error misuse) : misuse = .impossible := by
  unfold parseWhole at failed
  dsimp only at failed
  split at failed
  next => cases failed
  next => exact (Except.error.inj failed).symm

theorem parseNumber_plain (content : String) (misuse : Misuse)
    (failed : parseNumber (.text content) = .error misuse) : misuse = .impossible := by
  unfold parseNumber Value.asDouble at failed
  dsimp only at failed
  split at failed
  next => cases failed
  next => exact (Except.error.inj failed).symm

theorem parseFlag_plain (content : String) (misuse : Misuse)
    (failed : parseFlag (.text content) = .error misuse) : misuse = .impossible := by
  unfold parseFlag at failed
  dsimp only at failed
  split at failed
  next => cases failed
  next =>
    split at failed
    next => cases failed
    next => exact (Except.error.inj failed).symm

theorem overrides_plain : ∀ entry ∈ overrides, entry.IsPlain := by
  have letters : ∀ change content misuse,
      parseLetters change (.text content) = .error misuse -> misuse = .impossible := nofun
  have text : ∀ content misuse, parseText (.text content) = .error misuse -> misuse = .impossible :=
    nofun
  have items : ∀ content misuse,
      parseTexts (.text content) = .error misuse -> misuse = .impossible := nofun
  simp only [overrides, List.forall_mem_cons, Override.IsPlain]
  exact ⟨letters _, letters _, text, parseFlag_plain, text, text, parseWhole_plain, text, text,
    text, items, parseFlag_plain, text, text, text, items, parseFlag_plain, items, parseFlag_plain,
    parseFlag_plain, parseWhole_plain, parseNumber_plain, parseNumber_plain, text, nofun⟩

theorem overrides_apart : overrides.Pairwise Override.Apart := by decide +kernel

/-- Variables are applied each for itself. Where some cannot be, the first of them in the order of
the table is to blame, as told by its text and by the data given. Otherwise each that is set has put
its value under its key, and all the rest is as given, but for the sections made for them. -/
theorem overlay_pointwise (texts : Entries String String) (data : Value)
    (isMapping : data.isMapping = true) :
    let outcome := overlay (environmentOf texts) data
    let firstFault? := overrides.findSome? fun entry => entry.fault? texts data
    (∀ fault, outcome = .error fault ↔ firstFault? = some fault) ∧
      ∀ result, outcome = .ok result -> Merged overrides texts data result := by
  intro outcome firstFault?
  cases overlay_cases overrides_plain overrides_apart texts isMapping with
  | inl failed =>
    obtain ⟨fault, isFirst, fails⟩ := failed
    have fails : outcome = .error fault := fails
    have isFirst : firstFault? = some fault := isFirst
    rw [fails, isFirst]
    exact ⟨by simp, nofun⟩
  | inr applies =>
    obtain ⟨noFault, result, same, merged⟩ := applies
    have same : outcome = .ok result := same
    have noFault : firstFault? = none := noFault
    rw [same, noFault]
    refine ⟨by simp, fun other isOther => ?_⟩
    obtain rfl := Except.ok.inj isOther
    exact merged

def threeTexts : Entries String String :=
  [("LOG_LEVEL", "debug"), ("SMTP_PORT", " 25 "), ("RULES_FILE", "rules.yaml")]

theorem overlay_threeTexts :
    let data : Value :=
      .mapping [("logging", .mapping [("level", .null), ("colour", .bool true)]), ("extra", .int 7)]
    let result : Value :=
      .mapping [("logging", .mapping [("level", .text "DEBUG"), ("colour", .bool true)]),
        ("extra", .int 7), ("email", .mapping [("smtp_port", .int 25)]),
        ("rules_file", .text "rules.yaml")]
    data.isMapping = true ∧ overlay (environmentOf threeTexts) data = .ok result ∧
      Merged overrides threeTexts data result := by
  intro data result
  have level : parseLetters Text.upper (.text "debug") = .ok (.text "DEBUG") :=
    congrArg (fun content => Except.ok (Value.text content))
      (by decide +kernel : Text.upper "debug" = "DEBUG")
  have port : Number.readInt? " 25 " = some 25 := by decide +kernel
  -- Reading texts is left to the kernel; what comes of the table is then the same on both sides.
  have applied : overlay (environmentOf threeTexts) data = .ok result := by
    simp only [overlay, overrides, List.foldlM_cons, Override.apply, environmentOf, threeTexts,
      List.map_cons, List.map_nil, Entries.get?, List.find?_cons_of_pos, List.find?_cons_of_neg,
      List.find?_nil, Option.map_some, Option.map_none, BEq.rfl, String.reduceBEq,
      Bool.false_eq_true, not_false_eq_true, level, parseWhole, port, parseText]
    rfl
  exact ⟨rfl, applied, (overlay_pointwise threeTexts data rfl).2 result applied⟩

end SensorAlerting.Settings
