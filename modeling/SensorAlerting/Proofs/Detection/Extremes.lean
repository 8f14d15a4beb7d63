import SensorAlerting.Proofs.Condition.Evaluating
import SensorAlerting.Proofs.Detection.Histories
import SensorAlerting.Proofs.Number.Bounds

set_option autoImplicit false

/-!
Readings of extreme size in the histories of the anomaly detector. A reading that is far from the
mean of the last few has a square that is too large, and spoils every evaluation for as long as it
is one of them.
-/

namespace SensorAlerting

open SensorAlerting.Number SensorAlerting.Time

/-- Every number in an event has a double, which is of some kind. -/
structure Event.HoldsOnly (event : Event) (kind : Float -> Prop) : Prop where
  integers : ∀ path n, event.Found path (.int n) -> ∃ x, ofInt? n = some x ∧ kind x
  doubles : ∀ path value x, event.Found path value -> value.double? = some x -> kind x

namespace Detection

section Readings

variable {event : Event} {kind : Float -> Prop}

theorem lookupNumber_of_holdsOnly (holds : event.HoldsOnly kind) (path : List String) :
    ∃ number?, event.lookupNumber path = .ok number? ∧ ∀ x ∈ number?, kind x := by
  by_cases found : ∃ value, event.Found path value
  next =>
    obtain ⟨value, found⟩ := found
    rw [Event.lookupNumber, Event.lookup_of_found found]
    cases value with
    | int n =>
      obtain ⟨x, converted, good⟩ := holds.integers path n found
      refine ⟨some x, by simp [Value.quantity?, Quantity.toFloat, converted, Except.map], ?_⟩
      simpa using good
    | float | undefined => exact ⟨_, rfl, by simpa using holds.doubles path _ _ found rfl⟩
    | _ => exact ⟨none, rfl, by simp⟩
  next =>
    rw [Event.lookupNumber, Event.lookup_of_missing fun value holds => found ⟨value, holds⟩]
    exact ⟨none, rfl, by simp⟩

theorem extractReading_of_holdsOnly (holds : event.HoldsOnly kind) :
    ∃ reading?, extractReading event = .ok reading? ∧
      ∀ reading ∈ reading?, kind reading.value := by
  unfold extractReading
  induction valueFields with
  | nil => exact ⟨none, rfl, by simp⟩
  | cons name rest ih =>
    obtain ⟨number?, looked, good⟩ := lookupNumber_of_holdsOnly holds [name]
    rw [extractReading.go, looked]
    cases number? with
    | some x => exact ⟨some _, rfl, by simpa using good⟩
    | none => exact ih

theorem extractReading_of_extractValue {value : Float}
    (read : extractValue event = .ok (some value)) :
    ∃ reading, extractReading event = .ok (some reading) ∧ reading.value = value := by
  unfold extractValue at read
  rcases extracted : extractReading event with fault | _ | reading
  next => simp [extracted, Except.map] at read
  next => simp [extracted, Except.map] at read
  next => exact ⟨reading, rfl, by simpa [extracted, Except.map] using read⟩

end Readings

def IsExtreme (deviation : Float) : Prop :=
  isFinite deviation = true ∧ 2 ^ (512 : Int) <= |valueOf deviation|

section Statistics

variable {average value : Float} {values : List Float}

theorem square_of_isExtreme (extreme : IsExtreme value) : square value = .error .tooLarge := by
  obtain ⟨finite, large⟩ := extreme
  rw [square, finite, (isInfinite_mul_self_iff finite).mpr large]
  rfl

theorem square_of_not_isExtreme (tame : ¬ IsExtreme value) :
    square value = .ok (value * value) := by
  have notBoth : ¬ (isFinite value && isInfinite (value * value)) = true := by
    intro both
    obtain ⟨finite, infinite⟩ := (Bool.and_eq_true _ _).mp both
    exact tame ⟨finite, (isInfinite_mul_self_iff finite).mp infinite⟩
  rw [square, if_neg notBoth]

theorem squaredDeviations_of_isExtreme (extreme : ∃ value ∈ values, IsExtreme (value - average)) :
    squaredDeviations average values = .error .tooLarge := by
  induction values with
  | nil => simp at extreme
  | cons first rest ih =>
    rw [squaredDeviations]
    by_cases far : IsExtreme (first - average)
    next =>
      rw [square_of_isExtreme far]
      rfl
    next =>
      rw [square_of_not_isExtreme far, ih (by simpa [far] using extreme)]
      rfl

theorem squaredDeviations_of_not_isExtreme
    (tame : ∀ value ∈ values, ¬ IsExtreme (value - average)) :
    ∃ squares, squaredDeviations average values = .ok squares := by
  induction values with
  | nil => exact ⟨[], rfl⟩
  | cons first rest ih =>
    obtain ⟨near, others⟩ := List.forall_mem_cons.mp tame
    obtain ⟨squares, squared⟩ := ih others
    rw [squaredDeviations, square_of_not_isExtreme near, squared]
    exact ⟨_, rfl⟩

/-- Whether some last readings have one that is too far from their mean. -/
def Spoils (prior : List Float) : Prop :=
  spikeWindow <= prior.length ∧ ∃ value ∈ prior, IsExtreme (value - mean prior)

theorem isEmpty_of_enough {prior : List Float} (enough : spikeWindow <= prior.length) :
    prior.isEmpty = false := by
  rw [List.isEmpty_eq_false_iff]
  rintro rfl
  exact absurd enough (by decide)

theorem spikeOrDrop_of_spoils {prior : List Float} (spoils : Spoils prior) (value : Float) :
    spikeOrDrop prior value = .error .tooLarge := by
  obtain ⟨enough, extreme⟩ := spoils
  have squared := squaredDeviations_of_isExtreme extreme
  rw [spikeOrDrop, if_neg (Nat.not_lt.mpr enough)]
  simp [summarize, deviationAbout, isEmpty_of_enough enough, squared, bind, Except.bind]

theorem spikeOrDrop_of_not_spoils {prior : List Float} (tame : ¬ Spoils prior) (value : Float) :
    ∃ found?, spikeOrDrop prior value = .ok found? := by
  rw [spikeOrDrop]
  split
  next => exact ⟨none, rfl⟩
  next many =>
    have enough := Nat.not_lt.mp many
    have near : ∀ value ∈ prior, ¬ IsExtreme (value - mean prior) :=
      fun value member extreme => tame ⟨enough, value, member, extreme⟩
    obtain ⟨squares, squared⟩ := squaredDeviations_of_not_isExtreme near
    simp only [summarize, deviationAbout, isEmpty_of_enough enough, squared, bind, Except.bind,
      Bool.false_eq_true, if_false]
    repeat' split
    all_goals exact ⟨_, rfl⟩

end Statistics

section Means

variable {bound : Rat} {values : List Float}

def tameSize : Rat := 2 ^ (510 : Int)

theorem representable_multiple {count : Nat} (few : count <= 8) :
    Representable (count * tameSize) ∧ count * tameSize < limit := by
  constructor
  next =>
    refine ⟨count, 510, ?_, by norm_num, by rw [Int.cast_natCast]; rfl⟩
    rw [Nat.abs_cast]
    omega
  next =>
    have most : (count : Rat) <= 2 ^ (3 : Int) := by
      norm_num
      exact_mod_cast few
    calc (count : Rat) * tameSize <= 2 ^ (3 : Int) * 2 ^ (510 : Int) :=
          mul_le_mul_of_nonneg_right most (power_pos 510).le
      _ = 2 ^ (3 + 510 : Int) := (power_add 3 510).symm
      _ <= 2 ^ (970 : Int) := power_mono (by norm_num)
      _ < limit := by
          rw [limit_eq]
          exact lt_mul_of_one_lt_left (power_pos 970) (by norm_num)

theorem isWithin_foldl {values : List Float} (each : ∀ value ∈ values, IsWithin tameSize value)
    {count : Nat} {sum : Float} (so : IsWithin (count * tameSize) sum)
    (few : count + values.length <= 8) :
    IsWithin ((count + values.length : Nat) * tameSize)
      (values.foldl (fun sum value => sum + value) sum) := by
  induction values generalizing count sum with
  | nil => exact so
  | cons value rest ih =>
    -- Each sum so far is bounded by a multiple, which is a double itself, so that rounding keeps it.
    obtain ⟨tame, others⟩ := List.forall_mem_cons.mp each
    have grown : (count : Rat) * tameSize + tameSize = (count + 1 : Nat) * tameSize := by
      push_cast
      ring
    rw [List.length_cons] at few ⊢
    obtain ⟨representable, below⟩ := representable_multiple (show count + 1 <= 8 by omega)
    have next := so.add tame (by rwa [grown]) (by rwa [grown])
    rw [grown] at next
    rw [show count + (rest.length + 1) = count + 1 + rest.length by omega]
    exact ih others next (by omega)

theorem isWithin_mean (each : ∀ value ∈ values, IsWithin tameSize value)
    (some : values.isEmpty = false) (few : values.length <= 8) :
    IsWithin tameSize (mean values) := by
  have nought : IsWithin ((0 : Nat) * tameSize) 0 := by
    rw [Nat.cast_zero, zero_mul]
    exact isWithin_zero le_rfl
  have sum := isWithin_foldl each nought (by omega)
  rw [zero_add] at sum
  have pos : 0 < values.length := List.length_pos_of_ne_nil (List.isEmpty_eq_false_iff.mp some)
  have small : |(values.length : Int)| < 2 ^ 53 := by
    rw [Nat.abs_cast]
    omega
  obtain ⟨count, converted, finite, value⟩ :=
    ofInt?_exact (fits_of_small small) (representable_intCast small)
  rw [Int.cast_natCast] at value
  have divisor : (0 : Rat) < values.length := Nat.cast_pos.mpr pos
  rw [mean, some, divideBy, converted]
  refine (isNearest_div sum.1 finite (by rw [value]; exact divisor.ne')).isWithin ?_ ?_ ?_
  next =>
    rw [value, abs_div, abs_of_pos divisor, div_le_iff₀' divisor]
    exact sum.2
  next => simpa using (representable_multiple (show 1 <= 8 by norm_num)).1
  next => simpa using (representable_multiple (show 1 <= 8 by norm_num)).2

theorem not_spoils_of_isWithin (each : ∀ value ∈ values, IsWithin tameSize value)
    (few : values.length <= 8) : ¬ Spoils values := by
  rintro ⟨enough, value, member, -, large⟩
  have average := isWithin_mean each (isEmpty_of_enough enough) few
  have double : tameSize + tameSize = (2 : Nat) * tameSize := by
    push_cast
    ring
  obtain ⟨representable, below⟩ := representable_multiple (show 2 <= 8 by norm_num)
  have near := ((each value member).sub average (by rwa [double]) (by rwa [double])).2
  have small : tameSize + tameSize < 2 ^ (512 : Int) := by
    rw [<- two_mul, tameSize, <- zpow_one_add₀ two_ne_zero]
    exact power_lt_iff.mpr (by norm_num)
  exact absurd (large.trans near) (not_le.mpr small)

end Means

/-- A bound of a range that can be shown as a number. -/
def IsBound (stated : Value) : Prop :=
  (∃ x, stated.double? = some x) ∨ ∃ n, stated = .int n ∧ Fits n

structure AnomalySettings.IsUsable (settings : AnomalySettings) : Prop where
  sized : ∃ capacity, Window.capacityOf settings.maxHistorySize = .ok capacity
  ranged : ∀ sensorType stated, Entries.get? settings.validRanges sensorType = some stated ->
    stated = .null ∨
      ∃ low high, stated.asItems = .ok [low, high] ∧ IsBound low ∧ IsBound high

section Ranges

theorem asQuantity_of_double? {stated : Value} {x : Float} (double : stated.double? = some x) :
    stated.asQuantity = .ok (.real x) := by
  cases stated with
  | float | undefined => exact congrArg Except.ok (congrArg Quantity.real (Option.some.inj double))
  | _ => cases double

theorem asQuantity_of_isBound {stated : Value} (isBound : IsBound stated) :
    ∃ amount, stated.asQuantity = .ok amount := by
  obtain ⟨x, double⟩ | ⟨n, rfl, -⟩ := isBound
  next => exact ⟨_, asQuantity_of_double? double⟩
  next => exact ⟨_, rfl⟩

theorem asAmountText_of_isBound {stated : Value} (isBound : IsBound stated) :
    ∃ text, stated.asAmountText = .ok text := by
  obtain ⟨x, double⟩ | ⟨n, rfl, fits⟩ := isBound
  next =>
    cases stated with
    | float | undefined =>
      simp only [Value.asAmountText, Value.asDouble, Value.asQuantity, Quantity.toFloat,
        mapError_ok, bind, Except.bind]
      split <;> exact ⟨_, rfl⟩
    | _ => cases double
  next =>
    obtain ⟨x, converted, -⟩ := ofInt?_of_fits fits
    simp only [Value.asAmountText, Value.asDouble, Value.asQuantity, Quantity.toFloat, converted,
      mapError_ok, bind, Except.bind, Value.asWhole]
    split <;> exact ⟨_, rfl⟩

theorem holds_of_isBound {low high : Value} (lowBound : IsBound low) (highBound : IsBound high)
    (value : Float) : ∃ flag, ValidRange.holds { low, high } value = .ok flag := by
  obtain ⟨least, isLeast⟩ := asQuantity_of_isBound lowBound
  obtain ⟨most, isMost⟩ := asQuantity_of_isBound highBound
  simp only [ValidRange.holds, isLeast, isMost, bind, Except.bind]
  split <;> exact ⟨_, rfl⟩

theorem outOfRange_of_isUsable {settings : AnomalySettings} (usable : settings.IsUsable)
    (sensorType : String) (value : Float) :
    ∃ found?, outOfRange settings.validRanges sensorType value = .ok found? := by
  rw [outOfRange]
  split
  next => exact ⟨none, rfl⟩
  next => exact ⟨none, rfl⟩
  next stated notNull given =>
    obtain isNull | ⟨low, high, listed, lowBound, highBound⟩ := usable.ranged _ _ given
    next => exact absurd isNull notNull
    next =>
      obtain ⟨flag, held⟩ := holds_of_isBound lowBound highBound value
      obtain ⟨least, isLeast⟩ := asAmountText_of_isBound lowBound
      obtain ⟨most, isMost⟩ := asAmountText_of_isBound highBound
      simp only [ValidRange.ofValue, listed, held, isLeast, isMost, bind, Except.bind]
      cases flag <;> exact ⟨_, rfl⟩

end Ranges

namespace AnomalyDetector

def Call.HoldsOnly (kind : Float -> Prop) : Call -> Prop
  | .process _ _ event => event.HoldsOnly kind
  | _ => True

variable {settings : AnomalySettings} {kind : Float -> Prop}

theorem recorded_of_holdsOnly {event : Event} (holds : event.HoldsOnly kind) (now : Moment) :
    ∀ entry ∈ recorded settings now event, kind entry.2.value := by
  obtain ⟨reading?, read, good⟩ := extractReading_of_holdsOnly holds
  rw [recorded, read]
  cases reading? with
  | none => simp
  | some reading =>
    cases Window.capacityOf settings.maxHistorySize with
    | error fault => simp
    | ok capacity => simpa using good

theorem logAfter_of_holdsOnly {call : Call} (holds : call.HoldsOnly kind) (deviceId : String)
    {log : List (Moment × Reading)} (good : ∀ entry ∈ log, kind entry.2.value) :
    ∀ entry ∈ logAfter settings deviceId log call, kind entry.2.value := by
  unfold logAfter
  split
  next =>
    cases call with
    | process now serial event =>
      exact List.forall_mem_append.mpr ⟨good, recorded_of_holdsOnly holds now⟩
    | clear => simp
    | clearAll => simp
  next => exact good

theorem logOf_of_holdsOnly {calls : List Call} (holds : ∀ call ∈ calls, call.HoldsOnly kind)
    (deviceId : String) : ∀ entry ∈ logOf settings deviceId calls, kind entry.2.value := by
  suffices ∀ log : List (Moment × Reading), (∀ entry ∈ log, kind entry.2.value) ->
      ∀ entry ∈ calls.foldl (logAfter settings deviceId) log, kind entry.2.value from
    this [] (by simp)
  induction calls with
  | nil => exact fun log good => good
  | cons call later ih =>
    obtain ⟨first, others⟩ := List.forall_mem_cons.mp holds
    exact fun log good => ih others _ (logAfter_of_holdsOnly first deviceId good)

namespace Keeps

variable {detector : AnomalyDetector} {log : String -> List (Moment × Reading)}

theorem windowOf_eq (keeps : detector.Keeps settings log) {capacity : Nat}
    (sized : Window.capacityOf settings.maxHistorySize = .ok capacity) (deviceId : String) :
    detector.windowOf deviceId =
      .ok { capacity, samples := lastItems capacity (log deviceId) } := by
  rw [keeps.exact, windowOn, sized]
  rfl

theorem failure (keeps : detector.Keeps settings log) (usable : settings.IsUsable) {event : Event}
    (holds : event.HoldsOnly kind) (now : Moment) (serial : Nat) :
    let spoiled := extractValue event ≠ .ok none ∧
      Spoils (lastItems spikeWindow (detector.readings event.deviceId))
    (spoiled -> (detector.process now serial event).failure = some (.number .tooLarge)) ∧
      (¬ spoiled -> (detector.process now serial event).failure = none) := by
  obtain ⟨capacity, sized⟩ := usable.sized
  obtain ⟨reading?, read, -⟩ := extractReading_of_holdsOnly holds
  have opened :
      windowOf { detector with lastSeen := Entries.put detector.lastSeen event.deviceId now }
          event.deviceId =
        .ok { capacity, samples := lastItems capacity (log event.deviceId) } :=
    keeps.windowOf_eq sized event.deviceId
  rw [keeps.readings sized, AnomalyDetector.process, extractValue, read]
  cases reading? with
  | none => exact ⟨fun spoiled => absurd rfl spoiled.1, fun _ => rfl⟩
  | some reading =>
    dsimp only
    rw [opened, keeps.settled]
    dsimp only
    rw [map_last]
    constructor
    next =>
      rintro ⟨-, spoils⟩
      rw [findings, spikeOrDrop_of_spoils spoils]
      rfl
    next =>
      intro tame
      have quiet : ¬ Spoils (lastItems spikeWindow
          (numbers (lastItems capacity (log event.deviceId)))) :=
        fun spoils => tame ⟨by simp [Except.map], spoils⟩
      obtain ⟨spike?, spike⟩ := spikeOrDrop_of_not_spoils quiet reading.value
      -- Of the four detectors only the first and the third could fail at all.
      obtain ⟨range?, range⟩ := outOfRange_of_isUsable usable event.sensorType reading.value
      rw [findings, spike, range]
      rfl

end Keeps

/-- In a run of the detector an evaluation fails just where one of the last five readings held is so
far from their mean that the square of this is too large. So it does again for as long as that
reading is among them, since each reading is held however its own evaluation ends. Readings of tame
size never do this. -/
theorem process_after_extremes (usable : settings.IsUsable) (calls : List Call) {event : Event}
    (finite : event.HoldsOnly fun x => isFinite x = true) (now : Moment) (serial : Nat) :
    let detector := (start settings).run calls
    let held := detector.readings event.deviceId
    let ended := detector.process now serial event
    (ended.failure = none ↔
      extractValue event = .ok none ∨ ¬ Spoils (lastItems spikeWindow held)) ∧
    (ended.failure ≠ none -> ended.failure = some (.number .tooLarge)) ∧
    (∀ value capacity, extractValue event = .ok (some value) ->
      Window.capacityOf settings.maxHistorySize = .ok capacity ->
      ended.state.readings event.deviceId = lastItems capacity (held ++ [value])) ∧
    ((∀ call ∈ calls, call.HoldsOnly (IsWithin tameSize)) -> ended.failure = none) := by
  intro detector held ended
  have keeps : detector.Keeps settings fun deviceId => logOf settings deviceId calls :=
    (keeps_start settings).run calls
  obtain ⟨spoiled, unspoiled⟩ := keeps.failure usable finite now serial
  refine ⟨⟨?_, ?_⟩, ?_, ?_, ?_⟩
  next =>
    intro passed
    by_contra both
    rw [not_or, not_not] at both
    rw [spoiled both] at passed
    cases passed
  next =>
    intro either
    exact unspoiled fun both => either.elim both.1 fun tame => tame both.2
  next =>
    intro failed
    by_cases both : extractValue event ≠ .ok none ∧ Spoils (lastItems spikeWindow held)
    next => exact spoiled both
    next => exact absurd (unspoiled both) failed
  next =>
    intro value capacity read sized
    have after := (keeps.process now serial event).readings sized event.deviceId
    rw [after]
    obtain ⟨reading, found, rfl⟩ := extractReading_of_extractValue read
    simp only [held, keeps.readings sized, numbers_lastItems]
    simp [logAfter, Call.isAbout, recorded, found, sized, numbers, lastItems_grown]
  next =>
    intro tame
    refine unspoiled fun both => not_spoils_of_isWithin ?_ ?_ both.2
    next =>
      obtain ⟨capacity, sized⟩ := usable.sized
      intro value member
      rw [keeps.readings sized, numbers_lastItems] at member
      have logged := mem_of_mem_lastItems (mem_of_mem_lastItems member)
      obtain ⟨entry, isLogged, rfl⟩ := List.mem_map.mp logged
      exact logOf_of_holdsOnly tame event.deviceId entry isLogged
    next =>
      rw [length_lastItems]
      exact (Nat.min_le_left _ _).trans (by decide)

theorem isUsable_default : AnomalySettings.default.IsUsable where
  sized := ⟨100, by decide +kernel⟩
  ranged := by
    intro sensorType stated given
    have each : ∀ entry ∈ defaultValidRanges, ∃ low high : Int,
        entry.2 = rangeBetween low high ∧ |low| < 2 ^ 53 ∧ |high| < 2 ^ 53 := by
      simp [defaultValidRanges, rangeBetween]
    obtain ⟨low, high, rfl, few, many⟩ := each (sensorType, stated) (Entries.mem_of_get? given)
    exact .inr ⟨_, _, rfl, .inr ⟨low, rfl, fits_of_small few⟩, .inr ⟨high, rfl, fits_of_small many⟩⟩

def fed (values : List Float) : List Call :=
  values.map fun x => .process (universal 0) 0 (Condition.reading (.float x))

theorem holdsOnly_reading {x : Float} (good : kind x) :
    (Condition.reading (.float x)).HoldsOnly kind where
  integers path n found := by
    cases Condition.eq_of_found_reading (fun _ => rfl) rfl found
  doubles path value y found double := by
    have number : value.quantity?.isSome = true := by rw [Value.quantity?_of_double? double]; rfl
    obtain rfl := Condition.eq_of_found_reading (fun _ => rfl) number found
    exact Option.some.inj double ▸ good

theorem holdsOnly_fed {values : List Float} (good : ∀ x ∈ values, kind x) :
    ∀ call ∈ fed values, call.HoldsOnly kind := by
  intro call member
  obtain ⟨x, fed, rfl⟩ := List.mem_map.mp member
  exact holdsOnly_reading (good x fed)

theorem process_after_one_extreme :
    let calls := fed [0, 0, 0, 0, 1e200]
    let detector := (start .default).run calls
    let event := Condition.reading (.float 0)
    let ended := detector.process (universal 0) 0 event
    AnomalySettings.default.IsUsable ∧ (event.HoldsOnly fun x => isFinite x = true) ∧
      Spoils (lastItems spikeWindow (detector.readings "d1")) ∧
      ended.failure = some (.number .tooLarge) ∧ (ended.state.readings "d1").length = 6 ∧
      (((start .default).run (fed [0, 0, 0, 0, 0])).process (universal 0) 0 event).failure =
        none := by
  intro calls detector event ended
  have finite : event.HoldsOnly fun x => isFinite x = true :=
    holdsOnly_reading (by decide +kernel)
  obtain ⟨passes, fault, recorded, -⟩ :=
    process_after_extremes isUsable_default calls finite (universal 0) 0
  have failed : ended.failure ≠ none := by decide +kernel
  refine ⟨isUsable_default, finite, ?_, fault failed, ?_, ?_⟩
  next =>
    by_contra tame
    exact failed (passes.mpr (.inr tame))
  next =>
    have kept := recorded 0 100 (by rfl) (by decide +kernel)
    exact (congrArg List.length kept).trans (by decide +kernel)
  next =>
    refine (process_after_extremes isUsable_default (fed [0, 0, 0, 0, 0]) finite (universal 0)
      0).2.2.2 (holdsOnly_fed ?_)
    have tame : IsWithin tameSize 0 := isWithin_zero (power_pos 510).le
    simpa using tame

/-- One finite reading makes each of the next five events fail, and the sixth is as before. -/
theorem one_extreme_tooLarge :
    let detector := (start .default).run (fed [0, 0, 0, 0, 1e200])
    let further := fun count => detector.run (fed (List.replicate count 0))
    let event := Condition.reading (.float 0)
    (∀ call ∈ fed [0, 0, 0, 0, 1e200], call.HoldsOnly fun x => isFinite x = true) ∧
      (event.HoldsOnly fun x => isFinite x = true) ∧
      (∀ count ∈ [0, 1, 2, 3, 4], ((further count).process (universal 0) 0 event).failure =
        some (.number .tooLarge)) ∧
      ((further 5).process (universal 0) 0 event).failure = none := by
  intro detector further event
  have each : ∀ x ∈ ([0, 0, 0, 0, 1e200] : List Float), isFinite x = true := by decide +kernel
  exact ⟨holdsOnly_fed each, holdsOnly_reading (by decide +kernel), by decide +kernel,
    by decide +kernel⟩

end AnomalyDetector

end Detection

end SensorAlerting
