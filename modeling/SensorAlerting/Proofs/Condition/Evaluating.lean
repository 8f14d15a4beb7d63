import SensorAlerting.Proofs.Condition.Compiling
import SensorAlerting.Proofs.Entries
import SensorAlerting.Proofs.Number.Order

set_option autoImplicit false

/-!
What a condition says of an event, by what its path leads to. An integer is taken as the double
nearest to it; one that has none spoils the evaluation.
-/

namespace SensorAlerting

open SensorAlerting.Number SensorAlerting.Time

inductive Value.Leads : List String -> Value -> Value -> Prop where
  | here (value : Value) : Leads [] value value
  | under {name : String} {rest : List String} {value inner outcome : Value}
      (holds : value.field? name = some inner) (further : Leads rest inner outcome) :
      Leads (name :: rest) value outcome

theorem Value.quantity?_of_double? {value : Value} {x : Float} (double : value.double? = some x) :
    value.quantity? = some (.real x) := by
  cases value with
  | float | undefined => exact congrArg (Option.map Quantity.real) double
  | _ => cases double

namespace Event

theorem follow?_eq_some {path : List String} {value outcome : Value} :
    follow? path value = some outcome ↔ value.Leads path outcome := by
  induction path generalizing value with
  | nil =>
    constructor
    next =>
      intro same
      cases same
      exact .here _
    next =>
      intro leads
      cases leads
      rfl
  | cons name rest ih =>
    rw [follow?, Option.bind_eq_some_iff]
    constructor
    next =>
      rintro ⟨inner, holds, further⟩
      exact .under holds (ih.mp further)
    next =>
      intro leads
      cases leads with
      | under holds further => exact ⟨_, holds, ih.mpr further⟩

variable {event : Event} {path : List String} {value : Value}

/-- What a path stands for in an event. The name of an envelope field stands for that field where no
reading has the name. -/
inductive Found (event : Event) : List String -> Value -> Prop where
  | envelope {name : String} (isEnvelope : isEnvelope name = true)
      (unread : Entries.get? event.readings name = none) :
      Found event [name] (event.envelopeValue name)
  | reading {name : String} {rest : List String} {value : Value}
      (leads : (Value.mapping event.readings).Leads (name :: rest) value) :
      Found event (name :: rest) value

theorem lookup_of_found (found : event.Found path value) : event.lookup path = value := by
  cases found with
  | envelope isEnvelope unread => simp [lookup, isEnvelope, Entries.has, unread]
  | @reading name rest _ leads =>
    have followed := follow?_eq_some.mpr leads
    cases rest with
    | nil =>
      have given : Entries.get? event.readings name = some value := by
        simpa [follow?, Value.field?] using followed
      simp [lookup, Entries.has, given, Value.ofOption]
    | cons => simp [lookup, followed, Value.ofOption]

theorem lookup_of_missing (missing : ∀ value, ¬ event.Found path value) :
    event.lookup path = .null := by
  cases path with
  | nil => rfl
  | cons name rest =>
    have nowhere : follow? (name :: rest) (.mapping event.readings) = none := by
      rw [Option.eq_none_iff_forall_ne_some]
      intro value followed
      exact missing value (.reading (follow?_eq_some.mp followed))
    cases rest with
    | nil =>
      have unread : Entries.get? event.readings name = none := by
        simpa [follow?, Value.field?] using nowhere
      have noEnvelope : isEnvelope name = false := by
        by_contra isEnvelope
        exact missing _ (.envelope (Bool.eq_true_of_not_eq_false isEnvelope) unread)
      simp [lookup, noEnvelope, unread, Value.ofOption]
    | cons => simp [lookup, nowhere, Value.ofOption]

end Event

namespace Comparison

def Relates (comparison : Comparison) (value literal : Rat) : Prop :=
  match comparison with
  | .above => literal < value
  | .atLeast => literal <= value
  | .below => value < literal
  | .atMost => value <= literal
  | .equal => value = literal
  | .unequal => value ≠ literal

theorem holds_iff (comparison : Comparison) {value literal : Float}
    (finite : isFinite value = true) (bounded : isFinite literal = true) :
    comparison.holds value literal = true ↔
      comparison.Relates (valueOf value) (valueOf literal) := by
  cases comparison with
  | above => exact decide_eq_true_iff.trans (lt_iff_valueOf bounded finite)
  | atLeast => exact decide_eq_true_iff.trans (le_iff_valueOf bounded finite)
  | below => exact decide_eq_true_iff.trans (lt_iff_valueOf finite bounded)
  | atMost => exact decide_eq_true_iff.trans (le_iff_valueOf finite bounded)
  | equal => exact beq_iff_valueOf finite bounded
  | unequal =>
    have same := beq_iff_valueOf finite bounded
    simp only [holds, Relates, bne, Bool.not_eq_true', ne_eq, <- same, Bool.not_eq_true]

end Comparison

namespace Condition

variable {condition : Condition} {event : Event}

theorem lookupNumber_of_found {path : List String} {value : Value} {amount : Quantity}
    (found : event.Found path value) (number : value.quantity? = some amount) :
    event.lookupNumber path = amount.toFloat.map some := by
  rw [Event.lookupNumber, Event.lookup_of_found found, number]

theorem extract_beyond {n : Int} (found : event.Found condition.path (.int n))
    (beyond : ¬ Fits n) : condition.extract event = .error .tooLarge := by
  rw [extract, lookupNumber_of_found found rfl, Quantity.toFloat, ofInt?_of_not_fits beyond]
  rfl

theorem extract_none (noInteger : ∀ n, ¬ event.Found condition.path (.int n))
    (noDouble : ∀ value, event.Found condition.path value -> value.double? = none) :
    condition.extract event = .ok none := by
  have noNumber : (event.lookup condition.path).quantity? = none := by
    by_cases found : ∃ value, event.Found condition.path value
    next =>
      obtain ⟨value, found⟩ := found
      rw [Event.lookup_of_found found]
      cases value with
      | int n => exact absurd found (noInteger n)
      | float | undefined => cases noDouble _ found
      | _ => rfl
    next =>
      rw [Event.lookup_of_missing fun value holds => found ⟨value, holds⟩]
      rfl
  rw [extract, Event.lookupNumber, noNumber]

theorem holdsOn_of_extract {number? : Option Float}
    (extracted : condition.extract event = .ok number?) :
    condition.holdsOn event =
      .ok (number?.any (condition.comparison.holds · condition.literal)) := by
  rw [holdsOn, extracted]
  cases number? <;> rfl

theorem holdsOn_of_fault {fault : Fault} (extracted : condition.extract event = .error fault) :
    condition.holdsOn event = .error fault := by
  rw [holdsOn, extracted]
  rfl

theorem extract_double {value : Value} {x : Float} (found : event.Found condition.path value)
    (double : value.double? = some x) : condition.extract event = .ok (some x) := by
  rw [extract, lookupNumber_of_found found (Value.quantity?_of_double? double)]
  rfl

theorem extract_integer {n : Int} (found : event.Found condition.path (.int n))
    (fits : Fits n) : ∃ x, isFinite x = true ∧ valueOf x = nearest n ∧
      condition.extract event = .ok (some x) := by
  obtain ⟨x, converted, finite, value⟩ := ofInt?_of_fits fits
  refine ⟨x, finite, value, ?_⟩
  rw [extract, lookupNumber_of_found found rfl, Quantity.toFloat, converted]
  rfl

theorem exists_holdsOn (fits : ∀ n, event.Found condition.path (.int n) -> Fits n) :
    ∃ flag, condition.holdsOn event = .ok flag := by
  by_cases integer : ∃ n, event.Found condition.path (.int n)
  next =>
    obtain ⟨n, found⟩ := integer
    obtain ⟨x, -, -, extracted⟩ := extract_integer found (fits n found)
    exact ⟨_, holdsOn_of_extract extracted⟩
  next =>
    by_cases double : ∃ value, event.Found condition.path value ∧ ∃ x, value.double? = some x
    next =>
      obtain ⟨value, found, x, double⟩ := double
      exact ⟨_, holdsOn_of_extract (extract_double found double)⟩
    next =>
      have noDouble : ∀ value, event.Found condition.path value -> value.double? = none :=
        fun value found => Option.eq_none_iff_forall_ne_some.mpr fun x is =>
          double ⟨value, found, x, is⟩
      exact ⟨_, holdsOn_of_extract (extract_none (not_exists.mp integer) noDouble)⟩

/-- A condition is undefined where its path leads to an integer that has no double, and there only.
Elsewhere it is false without a number, and else compares the double of this with the literal, which
is the order of rationals when both are finite. -/
theorem holdsOn_by_path (condition : Condition) (event : Event) :
    ((∃ flag, condition.holdsOn event = .ok flag) ↔
      ∀ n, event.Found condition.path (.int n) -> Fits n) ∧
    (∀ n, event.Found condition.path (.int n) -> ¬ Fits n ->
      condition.extract event = .error .tooLarge ∧
      condition.holdsOn event = .error .tooLarge) ∧
    ((∀ n, ¬ event.Found condition.path (.int n)) ->
      (∀ value, event.Found condition.path value -> value.double? = none) ->
      condition.extract event = .ok none ∧ condition.holdsOn event = .ok false) ∧
    (∀ value x, event.Found condition.path value -> value.double? = some x ->
      condition.extract event = .ok (some x) ∧
      condition.holdsOn event = .ok (condition.comparison.holds x condition.literal)) ∧
    (∀ n, event.Found condition.path (.int n) -> Fits n ->
      ∃ x, isFinite x = true ∧ valueOf x = nearest n ∧
        condition.extract event = .ok (some x) ∧
        condition.holdsOn event = .ok (condition.comparison.holds x condition.literal)) ∧
    (∀ x, isFinite x = true -> isFinite condition.literal = true ->
      (condition.comparison.holds x condition.literal = true ↔
        condition.comparison.Relates (valueOf x) (valueOf condition.literal))) := by
  refine ⟨⟨?_, ?_⟩, ?_, ?_, ?_, ?_, ?_⟩
  next =>
    rintro ⟨flag, held⟩ n found
    by_contra beyond
    rw [holdsOn_of_fault (extract_beyond found beyond)] at held
    cases held
  next => exact exists_holdsOn
  next =>
    intro n found beyond
    have extracted := extract_beyond found beyond
    exact ⟨extracted, holdsOn_of_fault extracted⟩
  next =>
    intro noInteger noDouble
    have extracted := extract_none noInteger noDouble
    exact ⟨extracted, holdsOn_of_extract extracted⟩
  next =>
    intro value x found double
    have extracted := extract_double found double
    exact ⟨extracted, holdsOn_of_extract extracted⟩
  next =>
    intro n found fits
    obtain ⟨x, finite, value, extracted⟩ := extract_integer found fits
    exact ⟨x, finite, value, extracted, holdsOn_of_extract extracted⟩
  next =>
    intro x finite bounded
    exact condition.comparison.holds_iff finite bounded

def aboveFive : Phrase where
  lead := .none _
  first := ⟨'v', ⟨"alue".toList, List.all_eq_true.mp (by decide +kernel)⟩, by decide⟩
  others := []
  gap := ⟨[' '], List.all_eq_true.mp (by decide +kernel)⟩
  operator := .above
  space := ⟨[' '], List.all_eq_true.mp (by decide +kernel)⟩
  numeral := ⟨none, ⟨['5'], List.all_eq_true.mp (by decide +kernel)⟩, none, by decide⟩
  tail := .none _

def reading (value : Value) : Event where
  deviceId := "d1"
  sensorType := "mq134"
  location := "d1"
  timestamp := universal 0
  readings := [("value", value)]

theorem ofPayload_reading (value : Value) :
    Event.ofPayload (universal 0) (.mapping
      [("device_id", .text "d1"), ("sensor_type", .text "mq134"), ("value", value)]) =
        .ok (reading value) := rfl

theorem found_reading (value : Value) : (reading value).Found ["value"] value :=
  .reading (.under rfl (.here value))

theorem eq_of_found_reading {value found : Value} {path : List String}
    (flat : ∀ name, value.field? name = none) (number : found.quantity?.isSome = true)
    (isFound : (reading value).Found path found) : found = value := by
  cases isFound with
  | @envelope name =>
    unfold Event.envelopeValue at number
    repeat' split at number
    all_goals cases number
  | reading leads =>
    cases leads with
    | @under _ _ _ inner _ holds further =>
      have same : value = inner := by
        simp only [Value.field?, reading, Entries.get?_cons] at holds
        split at holds
        next => exact Option.some.inj holds
        next => cases holds
      subst same
      cases further with
      | here => rfl
      | under holds => simp [flat] at holds

theorem undefined_tooLarge :
    ∃ condition event, compile (.text "value > 5") = .ok condition ∧
      Event.ofPayload (universal 0) (.mapping [("device_id", .text "d1"),
        ("sensor_type", .text "mq134"), ("value", .int (10 ^ 400))]) = .ok event ∧
      condition.extract event = .error .tooLarge ∧
      condition.holdsOn event = .error .tooLarge := by
  have compiled : compile (.text "value > 5") = .ok aboveFive.condition := by
    have isSource : aboveFive.text = "value > 5" := by decide
    rw [<- isSource, compile, compile?_text]
  have beyond : ¬ Fits (10 ^ 400) := by
    unfold Fits
    decide +kernel
  have extracted : aboveFive.condition.extract (reading (.int (10 ^ 400))) = .error .tooLarge :=
    extract_beyond (found_reading _) beyond
  exact ⟨_, _, compiled, ofPayload_reading _, extracted, holdsOn_of_fault extracted⟩

end Condition

end SensorAlerting
