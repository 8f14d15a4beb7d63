import SensorAlerting.Proofs.Detection.Extremes
import SensorAlerting.Proofs.Detection.Findings
import SensorAlerting.Proofs.Number.Fifths

set_option autoImplicit false

/-!
A device whose last five readings are all the same. Their standard deviation is nought if their mean
comes out as the value itself. Where it is off by one in the last place the deviation is of that
size, and a reading is a spike or a drop if it is a few such places away.
-/

namespace SensorAlerting.Detection

open SensorAlerting.Number SensorAlerting.Time

/-- Whether the mean of five such values comes out as the value itself. -/
def isSteady (x : Float) : Bool :=
  match parts x with
  | .finite _ mantissa _ => comesBack mantissa
  | _ => false

/-- A finite double that is neither very small nor very large. -/
structure IsModerate (x : Float) : Prop where
  finite : isFinite x = true
  least : 1e-100 <= x.abs
  most : x.abs <= 1e100

section Moderate

variable {x : Float}

theorem IsModerate.bounds (moderate : IsModerate x) :
    2 ^ (-385 : Int) <= |valueOf x| ∧ |valueOf x| <= 2 ^ (333 : Int) := by
  obtain ⟨finite, least, most⟩ := moderate
  obtain ⟨sized, size⟩ := stands_abs finite
  have tiny : parts 1e-100 = .finite false 7880401239278896 (-385) := by decide +kernel
  have huge : parts 1e100 = .finite false 5147557589468029 280 := by decide +kernel
  rw [le_iff_valueOf (by rw [isFinite, tiny]) sized, size, valueOf_of_parts tiny] at least
  rw [le_iff_valueOf sized (by rw [isFinite, huge]), size, valueOf_of_parts huge] at most
  constructor
  next => exact (le_mul_of_one_le_left (power_pos _).le (by norm_num)).trans least
  next =>
    refine most.trans ?_
    rw [show (333 : Int) = 53 + 280 by norm_num, power_add]
    exact mul_le_mul_of_nonneg_right (by norm_num) (power_pos 280).le

theorem IsModerate.exists_form (moderate : IsModerate x) : ∃ sign mantissa,
    Form x sign mantissa (lastPlace (valueOf x)) ∧ 2 ^ 52 <= mantissa ∧
      -450 <= lastPlace (valueOf x) ∧ lastPlace (valueOf x) <= 300 := by
  obtain ⟨sign, mantissa, place, form⟩ := Number.exists_form moderate.finite
  obtain ⟨least, most⟩ := moderate.bounds
  have size := form.abs_value
  have short : (mantissa : Rat) < 2 ^ (53 : Int) := by exact_mod_cast form.normal.fits
  have below : |valueOf x| < 2 ^ (place + 53) := by
    rw [size, add_comm, power_add]
    exact mul_lt_mul_of_pos_right short (power_pos place)
  have early : -450 <= place := by
    have := power_lt_iff.mp (least.trans_lt below)
    omega
  have full := form.normal.full.resolve_right (by omega)
  have above : 2 ^ (place + 52) <= |valueOf x| := by
    have many : (2 : Rat) ^ (52 : Int) <= mantissa := by exact_mod_cast full
    rw [size, add_comm, power_add]
    exact mul_le_mul_of_nonneg_right many (power_pos place).le
  have late : place <= 300 := by
    have := (zpow_le_zpow_iff_right₀ (by norm_num : (1 : Rat) < 2)).mp (above.trans most)
    omega
  rw [lastPlace_eq (.inl above) form.normal.least below]
  exact ⟨sign, mantissa, form, full, early, late⟩

theorem IsModerate.isSteady_of_short (moderate : IsModerate x) {count place : Int}
    (few : |count| < 2 ^ 50) (value : valueOf x = count * 2 ^ place) : isSteady x = true := by
  obtain ⟨sign, mantissa, form, full, -, -⟩ := moderate.exists_form
  have same : (count.natAbs : Rat) * 2 ^ place = mantissa * 2 ^ lastPlace (valueOf x) := by
    rw [<- form.abs_value, value, abs_mul, abs_of_pos (power_pos place), Nat.cast_natAbs,
      Int.cast_abs]
  rw [Int.abs_eq_natAbs] at few
  have eights := mod_eight_of_short (by omega) full same
  rw [isSteady, form.parts]
  exact (comesBack_iff mantissa).mpr (.inr (by omega))

end Moderate

/-- A value and the mean of five of it as counts of the last place, which is far enough from both
ends for squares to be exact. -/
structure Averaged (x : Float) (place value average : Int) : Prop where
  early : -450 <= place
  late : place <= 300
  item : Stands x (value * 2 ^ place)
  mean : Stands (mean (List.replicate spikeWindow x)) (average * 2 ^ place)
  near : |value - average| <= 1
  short : |average| <= 2 ^ 53

theorem IsModerate.averaged {x : Float} (moderate : IsModerate x) : ∃ value average,
    Averaged x (lastPlace (valueOf x)) value average ∧
      (isSteady x = true ↔ value = average) := by
  obtain ⟨sign, mantissa, form, full, early, late⟩ := moderate.exists_form
  have mean := stands_fifth form full (by omega) (stands_count (show 5 < 2 ^ 53 by norm_num))
  have short := form.normal.fits
  have steady : isSteady x = comesBack mantissa := by rw [isSteady, form.parts]
  have item := form.value
  rw [withSign_eq_apply] at mean item
  obtain ⟨near, same⟩ := fifth_spec mantissa
  refine ⟨_, _, ⟨by omega, late, ⟨moderate.finite, item⟩, mean, ?_, ?_⟩, ?_⟩
  next => rwa [abs_apply_sub]
  next =>
    rw [abs_le] at near
    rw [abs_apply, abs_le]
    omega
  next =>
    rw [steady, same, <- sub_eq_zero (a := sign.apply _), <- abs_eq_zero, abs_apply_sub,
      abs_eq_zero, sub_eq_zero, Nat.cast_inj]

section Repeated

variable {x : Float}

theorem stands_total {a place : Int} (item : Stands x (a * 2 ^ place)) {count : Nat}
    (few : |count * a| < 2 ^ 53) (least : -1074 <= place) (early : place <= 900) :
    Stands (total (List.replicate count x)) ((count * a : Int) * 2 ^ place) := by
  induction count with
  | zero => simpa [total] using stands_zero
  | succ count ih =>
    have next : ((count + 1 : Nat) : Int) * a = count * a + a := by
      push_cast
      ring
    have fewer : |count * a| <= |((count + 1 : Nat) : Int) * a| := by
      rw [abs_mul, abs_mul, Nat.abs_cast, Nat.abs_cast]
      exact mul_le_mul_of_nonneg_right (by omega) (abs_nonneg a)
    have sum := ih (fewer.trans_lt few)
    rw [next] at few ⊢
    rw [List.replicate_succ', total, List.foldl_append]
    exact sum.addScaled item few least early

theorem squaredDeviations_replicate {average squared : Float}
    (square : square (x - average) = .ok squared) (count : Nat) :
    squaredDeviations average (List.replicate count x) = .ok (List.replicate count squared) := by
  induction count with
  | zero => rfl
  | succ count ih =>
    rw [List.replicate_succ, squaredDeviations, square, ih]
    rfl

end Repeated

namespace Averaged

variable {x : Float} {place value average : Int} (averaged : Averaged x place value average)

include averaged

theorem square_le : |(value - average) * (value - average)| <= 1 := by
  rw [abs_mul]
  exact mul_le_one₀ averaged.near (abs_nonneg _) averaged.near

theorem stands_square :
    let deviation := x - Detection.mean (List.replicate spikeWindow x)
    square deviation = .ok (deviation * deviation) ∧
      Stands (deviation * deviation)
        (((value - average) * (value - average) : Int) * 2 ^ (place + place)) := by
  intro deviation
  have small := averaged.square_le
  obtain ⟨early, late, item, mean, near, -⟩ := averaged
  have difference : Stands deviation ((value - average : Int) * 2 ^ place) :=
    item.subScaled mean (near.trans_lt (by norm_num)) (by omega) (by omega)
  constructor
  next =>
    refine square_of_not_isExtreme fun extreme => absurd extreme.2 (not_le.mpr ?_)
    have unit : |((value - average : Int) : Rat)| <= 1 := by exact_mod_cast near
    rw [difference.value, abs_mul, abs_of_pos (power_pos place)]
    exact (mul_le_of_le_one_left (power_pos place).le unit).trans_lt (power_lt_iff.mpr (by omega))
  next =>
    refine difference.mul difference ?_ (abs_scaled_lt (small.trans_lt (by norm_num)) (by omega))
    rw [<- nearest_of_representable (representable_scaled (small.trans_lt (by norm_num))
      (show -1074 <= place + place by omega)), power_add]
    congr 1
    push_cast
    ring

/-- The standard deviation is what the mean is off by. -/
theorem exists_deviation : ∃ deviation,
    populationDeviation (List.replicate spikeWindow x) = .ok deviation ∧
      Stands deviation ((|value - average| : Int) * 2 ^ place) := by
  obtain ⟨squared, square⟩ := averaged.stands_square
  have small := averaged.square_le
  obtain ⟨early, late, -, -, near, -⟩ := averaged
  set deviation := x - Detection.mean (List.replicate spikeWindow x)
  -- Squares are counts of a smaller unit, few enough for sum, mean and root to be exact.
  have sum : Stands (total (List.replicate spikeWindow (deviation * deviation)))
      ((spikeWindow * ((value - average) * (value - average)) : Int) * 2 ^ (place + place)) := by
    refine stands_total square ?_ (by omega) (by omega)
    rw [abs_mul]
    exact (mul_le_of_le_one_right (abs_nonneg _) small).trans_lt (by decide)
  have variance :
      Stands (divideBy (total (List.replicate spikeWindow (deviation * deviation))) spikeWindow)
        (((value - average) * (value - average) : Int) * 2 ^ (place + place)) := by
    refine sum.div (stands_count (by decide)) (by decide) ?_
      (abs_scaled_lt (small.trans_lt (by norm_num)) (by omega))
    rw [Int.cast_mul, Int.cast_natCast, mul_assoc, mul_div_cancel_left₀ _ (by decide)]
    exact nearest_of_representable
      (representable_scaled (small.trans_lt (by norm_num)) (by omega))
  have isSquare : (((value - average) * (value - average) : Int) : Rat) * 2 ^ (place + place) =
      (|value - average| : Int) * 2 ^ place * ((|value - average| : Int) * 2 ^ place) := by
    rw [<- abs_mul_abs_self (value - average), power_add]
    push_cast
    ring
  rw [isSquare] at variance
  refine ⟨_, ?_, variance.sqrt ?_ ?_ ?_⟩
  next =>
    rw [populationDeviation, deviationAbout, squaredDeviations_replicate squared]
    rfl
  next => exact mul_nonneg (by exact_mod_cast abs_nonneg _) (power_pos place).le
  next =>
    rw [<- abs_abs] at near
    exact representable_scaled (near.trans_lt (by norm_num)) (by omega)
  next =>
    rw [<- abs_abs] at near
    exact abs_scaled_lt (near.trans_lt (by norm_num)) (by omega)

theorem one_of_off (off : value ≠ average) : |value - average| = 1 :=
  le_antisymm averaged.near (Int.one_le_abs (sub_ne_zero.mpr off))

omit averaged in
theorem stands_spikeFactor : Stands spikeFactor 3 := by
  have read : parts spikeFactor = .finite false 6755399441055744 (-51) := by decide +kernel
  exact ⟨by rw [isFinite, read], (valueOf_of_parts read).trans (by norm_num)⟩

theorem exists_bounds (off : value ≠ average) {deviation : Float}
    (stands : Stands deviation ((|value - average| : Int) * 2 ^ place)) :
    let middle := Detection.mean (List.replicate spikeWindow x)
    ∃ low high, Stands (middle - spikeFactor * deviation) low ∧
      Stands (middle + spikeFactor * deviation) high ∧
      (value - 5 : Int) * 2 ^ place <= low ∧ low <= (value - 1 : Int) * 2 ^ place ∧
      (value + 1 : Int) * 2 ^ place <= high ∧ high <= (value + 5 : Int) * 2 ^ place := by
  intro middle
  have one := averaged.one_of_off off
  obtain ⟨early, late, -, mean, near, short⟩ := averaged
  obtain ⟨least, most⟩ := abs_le.mp near
  obtain ⟨fewest, many⟩ := abs_le.mp short
  have rise : Stands (spikeFactor * deviation) ((3 : Int) * 2 ^ place) := by
    refine stands_spikeFactor.mul stands ?_ (abs_scaled_lt (by norm_num) (by omega))
    rw [one, Int.cast_one, one_mul]
    exact nearest_of_representable (representable_scaled (by norm_num) (by omega))
  have below := isNearest_sub mean.finite rise.finite
  have above := isNearest_add mean.finite rise.finite
  rw [mean.value, rise.value, <- sub_mul, <- Int.cast_sub] at below
  rw [mean.value, rise.value, <- add_mul, <- Int.cast_add] at above
  obtain ⟨low, isLow, leastLow, mostLow⟩ :=
    below.standsNear (abs_lt.mpr ⟨by omega, by omega⟩) (by omega) (by omega)
  obtain ⟨high, isHigh, leastHigh, mostHigh⟩ :=
    above.standsNear (abs_lt.mpr ⟨by omega, by omega⟩) (by omega) (by omega)
  -- One place for the mean, three for the deviations and one for rounding their sum.
  have scale : ∀ {m n : Int}, m <= n -> (m : Rat) * 2 ^ place <= n * 2 ^ place := fun order =>
    mul_le_mul_of_nonneg_right (Int.cast_le.mpr order) (power_pos place).le
  exact ⟨low, high, isLow, isHigh, (scale (by omega)).trans leastLow,
    mostLow.trans (scale (by omega)), (scale (by omega)).trans leastHigh,
    mostHigh.trans (scale (by omega))⟩

end Averaged

def typeFound (prior : List Float) (deviation value : Float) : Option String :=
  if deviation <= 0 then none
  else if mean prior + spikeFactor * deviation < value then some "sudden_spike"
  else if value < mean prior - spikeFactor * deviation then some "sudden_drop"
  else none

theorem spikeOrDrop_type {prior : List Float} (enough : spikeWindow <= prior.length)
    {deviation : Float} (computed : populationDeviation prior = .ok deviation) (value : Float) :
    (spikeOrDrop prior value).map (Option.map Finding.anomalyType) =
      .ok (typeFound prior deviation value) := by
  rw [populationDeviation] at computed
  rw [spikeOrDrop, if_neg (Nat.not_lt.mpr enough), typeFound]
  simp only [summarize, computed, bind, Except.bind, pure, Except.pure]
  split
  next => rfl
  next =>
    split
    next => rfl
    next => split <;> rfl

section Deviation

variable {x y deviation : Float} {place value average : Int}
  (stands : Stands deviation ((|value - average| : Int) * 2 ^ place))

include stands

theorem beq_zero_iff : (deviation == 0) = true ↔ value = average := by
  rw [beq_iff_valueOf stands.finite stands_zero.finite, stands.value, valueOf_zero,
    mul_eq_zero_iff_right (power_pos place).ne', Int.cast_eq_zero, abs_eq_zero, sub_eq_zero]

theorem le_zero_iff : deviation <= 0 ↔ value = average := by
  have nonneg : 0 <= valueOf deviation := by
    rw [stands.value]
    exact mul_nonneg (Int.cast_nonneg (abs_nonneg _)) (power_pos place).le
  rw [<- beq_zero_iff stands, le_iff_valueOf stands.finite stands_zero.finite,
    beq_iff_valueOf stands.finite stands_zero.finite, valueOf_zero]
  exact ⟨fun most => le_antisymm most nonneg, le_of_eq⟩

theorem typeFound_of_same (same : value = average) (y : Float) :
    typeFound (List.replicate spikeWindow x) deviation y = none :=
  if_pos ((le_zero_iff stands).mpr same)

/-- Where the mean is off, readings far enough from the value are found, and those next to it are
not. -/
theorem Averaged.typeFound_of_off (averaged : Averaged x place value average)
    (off : value ≠ average) (finite : isFinite y = true) :
    ((value + 5 : Int) * 2 ^ place < valueOf y ->
        typeFound (List.replicate spikeWindow x) deviation y = some "sudden_spike") ∧
      (valueOf y < (value - 5 : Int) * 2 ^ place ->
        typeFound (List.replicate spikeWindow x) deviation y = some "sudden_drop") ∧
      ((value - 1 : Int) * 2 ^ place <= valueOf y -> valueOf y <= (value + 1 : Int) * 2 ^ place ->
        typeFound (List.replicate spikeWindow x) deviation y = none) := by
  obtain ⟨low, high, isLow, isHigh, leastLow, mostLow, leastHigh, mostHigh⟩ :=
    averaged.exists_bounds off stands
  have isAbove := lt_iff_valueOf isHigh.finite finite
  have isBelow := lt_iff_valueOf finite isLow.finite
  rw [isHigh.value] at isAbove
  rw [isLow.value] at isBelow
  rw [typeFound, if_neg (mt (le_zero_iff stands).mp off)]
  refine ⟨fun above => ?_, fun below => ?_, fun least most => ?_⟩
  next => rw [if_pos (isAbove.mpr (mostHigh.trans_lt above))]
  next =>
    have apart : (value - 5 : Int) * (2 : Rat) ^ place <= (value + 1 : Int) * 2 ^ place :=
      mul_le_mul_of_nonneg_right (Int.cast_le.mpr (by omega)) (power_pos place).le
    have notAbove := not_lt.mpr (below.le.trans (apart.trans leastHigh))
    rw [if_neg (mt isAbove.mp notAbove), if_pos (isBelow.mpr (below.trans_le leastLow))]
  next =>
    rw [if_neg (mt isAbove.mp (not_lt.mpr (most.trans leastHigh))),
      if_neg (mt isBelow.mp (not_lt.mpr (mostLow.trans least)))]

theorem Averaged.typeFound_of_near (averaged : Averaged x place value average)
    (finite : isFinite y = true) (near : |valueOf y - value * 2 ^ place| <= 2 ^ place) :
    typeFound (List.replicate spikeWindow x) deviation y = none := by
  by_cases same : value = average
  next => exact typeFound_of_same stands same y
  next =>
    obtain ⟨least, most⟩ := abs_le.mp near
    refine (averaged.typeFound_of_off stands same finite).2.2 ?_ ?_
    next =>
      push_cast
      linarith
    next =>
      push_cast
      linarith

end Deviation

namespace AnomalyDetector

theorem windowOf_of_readings {detector : AnomalyDetector} {deviceId : String} {x : Float}
    (constant : lastItems spikeWindow (detector.readings deviceId) =
      List.replicate spikeWindow x) :
    ∃ window, detector.windowOf deviceId = .ok window ∧
      (window.last spikeWindow).map Reading.value = List.replicate spikeWindow x := by
  have many := congrArg List.length constant
  rw [length_lastItems, List.length_replicate] at many
  unfold readings at constant many
  cases held : Entries.get? detector.history deviceId with
  | none =>
    rw [held] at many
    exact absurd many (by decide)
  | some window =>
    rw [held] at constant many
    dsimp only at constant many
    rw [map_last] at constant many
    have roomy : spikeWindow <= window.capacity := by
      rw [length_lastItems] at many
      omega
    rw [lastItems_lastItems, Nat.min_eq_left roomy, <- map_last] at constant
    exact ⟨window, by rw [windowOf, held], constant⟩

section Constant

variable {detector : AnomalyDetector} {event : Event} {x deviation : Float}
  (constant : lastItems spikeWindow (detector.readings event.deviceId) =
    List.replicate spikeWindow x)
  (computed : populationDeviation (List.replicate spikeWindow x) = .ok deviation) (now : Moment)
  (serial : Nat) {anomalyType : String}
  (other : anomalyType ∉ ["flatline", "out_of_range", "rapid_fluctuation"])

include constant computed other

theorem raised_iff_typeFound :
    Raised (detector.process now serial event) anomalyType ↔
      ∃ value found, extractValue event = .ok (some value) ∧
        outOfRange detector.settings.validRanges event.sensorType value = .ok found ∧
        typeFound (List.replicate spikeWindow x) deviation value = some anomalyType := by
  obtain ⟨window, held, last⟩ := windowOf_of_readings constant
  rw [raised_iff detector now serial event other, held]
  simp [last, spikeOrDrop_type (List.length_replicate ..).ge computed]

theorem not_raised (nothing : ∀ value, extractValue event = .ok (some value) ->
      typeFound (List.replicate spikeWindow x) deviation value = none) :
    ¬ Raised (detector.process now serial event) anomalyType := by
  rw [raised_iff_typeFound constant computed now serial other]
  rintro ⟨value, found, read, -, typed⟩
  rw [nothing value read] at typed
  cases typed

end Constant

/-- Of five equal readings of moderate size the standard deviation is nought just if the value is
steady. Then no reading that follows is a spike or a drop, whatever it is. Of any other value the
deviation is one in its last place, and more than five of these away from it a reading is a spike or
a drop; the value itself and its neighbours never are. -/
theorem process_after_constant {detector : AnomalyDetector} {event : Event} {x : Float}
    (moderate : IsModerate x)
    (constant : lastItems spikeWindow (detector.readings event.deviceId) =
      List.replicate spikeWindow x) (now : Moment) (serial : Nat) :
    let ended := detector.process now serial event
    let place : Rat := 2 ^ lastPlace (valueOf x)
    (∃ deviation, populationDeviation (List.replicate spikeWindow x) = .ok deviation ∧
      ((deviation == 0) = true ↔ isSteady x = true) ∧
      (isSteady x = false -> valueOf deviation = place)) ∧
    (isSteady x = true -> ¬ Raised ended "sudden_spike" ∧ ¬ Raised ended "sudden_drop") ∧
    (∀ y, extractValue event = .ok (some y) -> isFinite y = true ->
      (|valueOf y - valueOf x| <= place ->
        ¬ Raised ended "sudden_spike" ∧ ¬ Raised ended "sudden_drop") ∧
      (isSteady x = false -> detector.settings.IsUsable ->
        (valueOf x + 5 * place < valueOf y -> Raised ended "sudden_spike") ∧
        (valueOf y < valueOf x - 5 * place -> Raised ended "sudden_drop"))) := by
  intro ended place
  obtain ⟨value, average, averaged, steady⟩ := moderate.averaged
  obtain ⟨deviation, computed, stands⟩ := averaged.exists_deviation
  have quiet : (∀ y, extractValue event = .ok (some y) ->
      typeFound (List.replicate spikeWindow x) deviation y = none) ->
      ¬ Raised ended "sudden_spike" ∧ ¬ Raised ended "sudden_drop" := fun nothing =>
    ⟨not_raised constant computed now serial (by decide) nothing,
      not_raised constant computed now serial (by decide) nothing⟩
  have item := averaged.item.value
  have off : isSteady x = false -> value ≠ average := by
    intro unsteady equal
    rw [steady.mpr equal] at unsteady
    cases unsteady
  refine ⟨⟨deviation, computed, ?_, fun unsteady => ?_⟩, fun isSteady => ?_,
    fun y read finite => ⟨fun near => ?_, fun unsteady usable => ?_⟩⟩
  next => rw [beq_zero_iff stands, steady]
  next => rw [stands.value, averaged.one_of_off (off unsteady), Int.cast_one, one_mul]
  next => exact quiet fun y _ => typeFound_of_same stands (steady.mp isSteady) y
  next =>
    refine quiet fun other same => ?_
    obtain rfl : y = other := by
      rw [read] at same
      exact Option.some.inj (Except.ok.inj same)
    exact averaged.typeFound_of_near stands finite (by rwa [<- item])
  next =>
    obtain ⟨found, ranged⟩ := outOfRange_of_isUsable usable event.sensorType y
    obtain ⟨spike, drop, -⟩ := averaged.typeFound_of_off stands (off unsteady) finite
    constructor
    next =>
      intro above
      refine (raised_iff_typeFound constant computed now serial (by decide)).mpr
        ⟨y, found, read, ranged, spike ?_⟩
      push_cast
      linarith
    next =>
      intro below
      refine (raised_iff_typeFound constant computed now serial (by decide)).mpr
        ⟨y, found, read, ranged, drop ?_⟩
      push_cast
      linarith

/-- After five readings of 0.11 one of 0.12 is a spike, after five of 100 it is not even a drop. -/
theorem process_after_constant_reading :
    let after := fun x => (start .default).run (fed (List.replicate spikeWindow x))
    let event := Condition.reading (.float 0.12)
    let raises := fun x => Raised ((after x).process (universal 0) 0 event)
    (∀ x ∈ [(0.11 : Float), 100], IsModerate x ∧
      lastItems spikeWindow ((after x).readings event.deviceId) = List.replicate spikeWindow x) ∧
      isSteady 0.11 = false ∧ raises 0.11 "sudden_spike" ∧
      isSteady 100 = true ∧ ¬ raises 100 "sudden_spike" ∧ ¬ raises 100 "sudden_drop" := by
  intro after event raises
  have uneven : IsModerate 0.11 := ⟨by decide +kernel, by decide +kernel, by decide +kernel⟩
  have whole : IsModerate 100 := ⟨by decide +kernel, by decide +kernel, by decide +kernel⟩
  have first : lastItems spikeWindow ((after 0.11).readings event.deviceId) =
      List.replicate spikeWindow 0.11 := by decide +kernel
  have second : lastItems spikeWindow ((after 100).readings event.deviceId) =
      List.replicate spikeWindow 100 := by decide +kernel
  have steady : isSteady 100 = true :=
    whole.isSteady_of_short (show |(100 : Int)| < 2 ^ 50 by norm_num)
      (show valueOf 100 = (100 : Int) * 2 ^ (0 : Int) by decide +kernel)
  obtain ⟨-, -, further⟩ := process_after_constant uneven first (universal 0) 0
  obtain ⟨-, quiet, -⟩ := process_after_constant whole second (universal 0) 0
  refine ⟨by simp [uneven, whole, first, second], by decide +kernel, ?_, steady, quiet steady⟩
  exact ((further 0.12 rfl (by decide +kernel)).2 (by decide +kernel) isUsable_default).1
    (by decide +kernel)

/-- Five readings of 0.11 deviate by one in the last place, and 0.12 is taken for a spike. -/
theorem constant_spikes :
    let held := List.replicate spikeWindow (0.11 : Float)
    let detector := (start .default).run (fed held)
    let ended := detector.process (universal 0) 0 (Condition.reading (.float 0.12))
    IsModerate 0.11 ∧ IsModerate 0.12 ∧ detector.readings "d1" = held ∧
      populationDeviation held = .ok 1.3877787807814457e-17 ∧
      ended.alerts.map (fun alert => alert.ruleId) = ["anomaly_sudden_spike"] := by
  exact ⟨⟨by decide +kernel, by decide +kernel, by decide +kernel⟩,
    ⟨by decide +kernel, by decide +kernel, by decide +kernel⟩, by decide +kernel,
    by decide +kernel, by decide +kernel⟩

end AnomalyDetector

end SensorAlerting.Detection
