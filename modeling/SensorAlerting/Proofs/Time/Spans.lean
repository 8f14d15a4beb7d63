import Mathlib.Algebra.Order.Floor.Ring
import SensorAlerting.Proofs.Number.Exact
import SensorAlerting.Proofs.Number.Order
import SensorAlerting.Time.Span

set_option autoImplicit false

/-!
How long a span is that an amount of some unit makes: at least as many units as the amount has whole
ones, and at most one more.
-/

namespace SensorAlerting

namespace Number

theorem Form.value_eq_magnitude {x : Float} {sign : Float.Model.UnpackedFloat.Sign}
    {mantissa : Nat} {exponent : Int} (form : Form x sign mantissa exponent) :
    valueOf x = withSign sign
      ((magnitude mantissa exponent).1 / (magnitude mantissa exponent).2 : Rat) := by
  rw [form.value]
  simp only [magnitude, Nat.pow_eq]
  push_cast
  rw [<- power_mul_toNat, <- mul_assoc, mul_div_cancel_right₀ _ (by positivity)]

theorem magnitude_pos (mantissa : Nat) (exponent : Int) : 0 < (magnitude mantissa exponent).2 :=
  Nat.two_pow_pos _

theorem isFinite_of_truncate? {x : Float} {whole : Int} (truncated : truncate? x = some whole) :
    isFinite x = true := by
  rw [truncate?] at truncated
  rw [isFinite]
  split at truncated
  next => rfl
  next => cases truncated

theorem exists_truncate? {x : Float} (finite : isFinite x = true) :
    ∃ whole, truncate? x = some whole := by
  obtain ⟨sign, mantissa, exponent, form⟩ := exists_form finite
  rw [truncate?, form.parts]
  exact ⟨_, rfl⟩

theorem Form.truncated_eq {x : Float} {sign : Float.Model.UnpackedFloat.Sign} {mantissa : Nat}
    {exponent whole : Int} (form : Form x sign mantissa exponent)
    (truncated : truncate? x = some whole) : (whole : Rat) = withSign sign ⌊|valueOf x|⌋ := by
  have floor : ⌊|valueOf x|⌋ =
      ((magnitude mantissa exponent).1 / (magnitude mantissa exponent).2 : Nat) := by
    rw [form.value_eq_magnitude, abs_withSign, abs_of_nonneg (by positivity)]
    exact (Int.floor_div_natCast _ _).trans (by rw [Int.floor_natCast, Int.natCast_ediv])
  rw [truncate?, form.parts] at truncated
  rw [<- Option.some.inj truncated, floor]
  cases sign <;> simp [withSign, isNegative]

/-- What a double is cut down to is a double itself, and less than one away. -/
theorem truncate?_spec {x : Float} {whole : Int} (truncated : truncate? x = some whole) :
    |valueOf x - whole| < 1 ∧
      ∃ cut, ofInt? whole = some cut ∧ isFinite cut = true ∧ valueOf cut = whole := by
  have finite := isFinite_of_truncate? truncated
  obtain ⟨sign, mantissa, exponent, form⟩ := exists_form finite
  have value : valueOf x = withSign sign |valueOf x| := by
    rw [form.abs_value]
    exact form.value
  have isWhole := form.truncated_eq truncated
  have representable := representable_valueOf finite
  have inRange := abs_valueOf_lt_limit finite
  have below := Int.floor_le |valueOf x|
  have above := Int.lt_floor_add_one |valueOf x|
  have nonneg : (0 : Rat) <= ⌊|valueOf x|⌋ := Int.cast_nonneg (Int.floor_nonneg.mpr (abs_nonneg _))
  have fits : Fits whole := by
    rw [fits_iff, isWhole, abs_withSign, abs_of_nonneg nonneg]
    exact below.trans_lt inRange
  rw [value] at representable
  cases sign with
  | positive =>
    change Representable |valueOf x| at representable
    change (whole : Rat) = ⌊|valueOf x|⌋ at isWhole
    change valueOf x = |valueOf x| at value
    refine ⟨?_, ofInt?_exact fits (isWhole ▸ representable.floor)⟩
    rw [isWhole, abs_lt]
    constructor <;> linarith
  | negative =>
    change Representable (-|valueOf x|) at representable
    change (whole : Rat) = -⌊|valueOf x|⌋ at isWhole
    change valueOf x = -|valueOf x| at value
    have size : Representable |valueOf x| := neg_neg |valueOf x| ▸ representable.neg
    refine ⟨?_, ofInt?_exact fits (isWhole ▸ size.floor.neg)⟩
    rw [isWhole, abs_lt]
    constructor <;> linarith

theorem truncate?_of_nonneg {x : Float} (finite : isFinite x = true) (nonneg : 0 <= valueOf x) :
    truncate? x = some ⌊valueOf x⌋ := by
  obtain ⟨whole, truncated⟩ := exists_truncate? finite
  obtain ⟨sign, mantissa, exponent, form⟩ := exists_form finite
  have same : (whole : Rat) = ⌊valueOf x⌋ := by
    rw [form.truncated_eq truncated, abs_of_nonneg nonneg]
    cases sign with
    | positive => rfl
    | negative =>
      have nonpos : valueOf x <= 0 := by
        rw [form.value]
        exact neg_nonpos.mpr (mul_nonneg (Nat.cast_nonneg _) (power_pos _).le)
      rw [le_antisymm nonpos nonneg, Int.floor_zero, Int.cast_zero, withSign_zero]
  rw [truncated, Int.cast_inj.mp same]

end Number

namespace Time

open Number

theorem roundRatio_eq (numerator : Int) {denominator : Nat} (pos : 0 < denominator) :
    roundRatio numerator denominator = nearestWhole (numerator / denominator : Rat) :=
  (nearestWhole_div numerator pos).symm

theorem roundSum_eq (whole : Int) {x : Float} (finite : isFinite x = true) :
    roundSum whole x = nearestWhole (whole + valueOf x) := by
  obtain ⟨sign, mantissa, exponent, form⟩ := exists_form finite
  have positive := magnitude_pos mantissa exponent
  have divisor : ((magnitude mantissa exponent).2 : Rat) ≠ 0 := Nat.cast_ne_zero.mpr positive.ne'
  rw [roundSum, form.parts]
  dsimp only
  rw [roundRatio_eq _ positive, form.value_eq_magnitude]
  congr 1
  rw [div_eq_iff divisor, add_mul]
  cases sign with
  | positive =>
    change ((_ + ((magnitude mantissa exponent).1 : Int) : Int) : Rat) = _ + _ / _ * _
    rw [div_mul_cancel₀ _ divisor]
    push_cast
    rfl
  | negative =>
    change ((_ + -((magnitude mantissa exponent).1 : Int) : Int) : Rat) = _ + -(_ / _) * _
    rw [neg_mul, div_mul_cancel₀ _ divisor]
    push_cast
    rfl

section Amounts

variable {x : Float}

theorem truncate_of_nonneg (finite : isFinite x = true) (nonneg : 0 <= valueOf x) :
    Quantity.truncate x = .ok ⌊valueOf x⌋ := by
  rw [Quantity.truncate, truncate?_of_nonneg finite nonneg]

theorem ofInt?_floor (finite : isFinite x = true) (nonneg : 0 <= valueOf x) :
    ∃ floor, ofInt? ⌊valueOf x⌋ = some floor ∧ isFinite floor = true ∧
      valueOf floor = ⌊valueOf x⌋ := (truncate?_spec (truncate?_of_nonneg finite nonneg)).2

theorem abs_intCast_lt {n : Int} (small : |n| < 2 ^ 53) : |(n : Rat)| < limit :=
  fits_iff.mp (fits_of_small small)

theorem between_whole {q : Rat} {least most : Int} (isNearest : IsNearest x q)
    (low : least <= q) (high : q <= most) (leastSmall : |least| < 2 ^ 53)
    (mostSmall : |most| < 2 ^ 53) :
    isFinite x = true ∧ least <= valueOf x ∧ valueOf x <= most :=
  isNearest.between low high (representable_intCast leastSmall) (representable_intCast mostSmall)
    (abs_intCast_lt leastSmall) (abs_intCast_lt mostSmall)

theorem stands_sub_floor (finite : isFinite x = true) (nonneg : 0 <= valueOf x) {floor : Float}
    (floored : ofInt? ⌊valueOf x⌋ = some floor) :
    Stands (x - floor) (nearest (Int.fract (valueOf x))) := by
  obtain ⟨same, isSame, floorFinite, value⟩ := ofInt?_floor finite nonneg
  obtain rfl : same = floor := Option.some.inj (isSame.symm.trans floored)
  have rounded := isNearest_sub finite floorFinite
  rw [value] at rounded
  refine rounded.stands rfl ?_
  rw [abs_nearest_lt_iff]
  refine lt_trans ?_ (@abs_intCast_lt 1 (by decide))
  rw [Int.cast_one, abs_one]
  exact (abs_of_nonneg (Int.fract_nonneg (valueOf x))).trans_lt (Int.fract_lt_one (valueOf x))

end Amounts

section Lengths

variable {p q r : Rat} {n unit : Int}

theorem nearest_fract_nonneg (q : Rat) : 0 <= nearest (Int.fract q) :=
  nearest_nonneg (Int.fract_nonneg q)

theorem nearest_fract_le (q : Rat) : nearest (Int.fract q) <= 1 :=
  nearest_le (Int.fract_lt_one q).le ⟨1, 0, by decide, by decide, by simp⟩

def inParts (p : Rat) : Rat := ⌊p⌋ + nearest (Int.fract p)

theorem le_inParts (order : n <= p) : n <= inParts p := by
  have floor : (n : Rat) <= ⌊p⌋ := Int.cast_le.mpr (Int.le_floor.mpr order)
  have rest := nearest_fract_nonneg p
  unfold inParts
  linarith

theorem inParts_le (order : p <= n) : inParts p <= n := by
  unfold inParts
  rcases order.eq_or_lt with same | below
  next => rw [same, Int.floor_intCast, Int.fract_intCast, nearest_zero, add_zero]
  next =>
    have floor : (⌊p⌋ : Rat) + 1 <= n := by exact_mod_cast Int.floor_lt.mpr below
    have rest := nearest_fract_le p
    linarith

theorem inParts_mono (order : p <= q) : inParts p <= inParts q := by
  rcases (Int.floor_mono order).eq_or_lt with same | below
  next =>
    have rest : Int.fract p <= Int.fract q := by
      unfold Int.fract
      rw [same]
      linarith
    unfold inParts
    rw [same]
    exact add_le_add_right (nearest_mono rest) _
  next =>
    have between : p <= (⌊q⌋ : Int) := (Int.floor_lt.mp below).le
    exact (inParts_le between).trans (le_inParts (Int.floor_le q))

/-- The microseconds that an amount of a unit makes before they are rounded, without its whole
units. -/
def fractionOf (unit : Int) (q : Rat) : Rat := nearest (unit * nearest (Int.fract q))

/-- The length of the span that an amount of a unit makes. -/
def spanAt (unit : Int) (q : Rat) : Int :=
  nearestWhole (⌊q⌋ * unit + inParts (fractionOf unit q))

theorem fractionOf_nonneg (positive : 0 < unit) (q : Rat) : 0 <= fractionOf unit q :=
  nearest_nonneg (mul_nonneg (Int.cast_nonneg positive.le) (nearest_fract_nonneg q))

theorem fractionOf_le (positive : 0 < unit) (small : |unit| < 2 ^ 53) (q : Rat) :
    fractionOf unit q <= unit :=
  nearest_le (mul_le_of_le_one_right (Int.cast_nonneg positive.le) (nearest_fract_le q))
    (representable_intCast small)

theorem le_spanAt (positive : 0 < unit) (q : Rat) : ⌊q⌋ * unit <= spanAt unit q := by
  have fraction : ((0 : Int) : Rat) <= inParts (fractionOf unit q) :=
    le_inParts (by simpa using fractionOf_nonneg positive q)
  rw [<- nearestWhole_intCast (⌊q⌋ * unit)]
  refine nearestWhole_mono ?_
  push_cast at fraction ⊢
  linarith

theorem spanAt_le (positive : 0 < unit) (small : |unit| < 2 ^ 53) (q : Rat) :
    spanAt unit q <= (⌊q⌋ + 1) * unit := by
  have fraction := inParts_le (fractionOf_le positive small q)
  rw [<- nearestWhole_intCast ((⌊q⌋ + 1) * unit)]
  refine nearestWhole_mono ?_
  push_cast
  linarith

theorem spanAt_mono (positive : 0 < unit) (small : |unit| < 2 ^ 53) (order : q <= r) :
    spanAt unit q <= spanAt unit r := by
  rcases (Int.floor_mono order).eq_or_lt with same | below
  next =>
    have rest : Int.fract q <= Int.fract r := by
      unfold Int.fract
      rw [same]
      linarith
    have fraction : fractionOf unit q <= fractionOf unit r :=
      nearest_mono (mul_le_mul_of_nonneg_left (nearest_mono rest) (Int.cast_nonneg positive.le))
    unfold spanAt
    rw [same]
    exact nearestWhole_mono (add_le_add_right (inParts_mono fraction) _)
  next =>
    calc spanAt unit q <= (⌊q⌋ + 1) * unit := spanAt_le positive small q
      _ <= ⌊r⌋ * unit := Int.mul_le_mul_of_nonneg_right below positive.le
      _ <= spanAt unit r := le_spanAt positive r

end Lengths

section Amounts

variable {x : Float} {unit : Int}

theorem splitAmount_of_nonneg (positive : 0 < unit) (small : |unit| < 2 ^ 53)
    (finite : isFinite x = true) (nonneg : 0 <= valueOf x) :
    ∃ whole fraction, splitAmount unit (.real x) = .ok (whole, fraction) ∧
      isFinite fraction = true ∧
      whole + valueOf fraction = ⌊valueOf x⌋ * unit + inParts (fractionOf unit (valueOf x)) := by
  obtain ⟨floor, floored, -⟩ := ofInt?_floor finite nonneg
  have left := stands_sub_floor finite nonneg floored
  simp only [splitAmount, truncate_of_nonneg finite nonneg, bind, Except.bind, floored,
    Option.getD_some]
  split
  next nought =>
    have nothing : nearest (Int.fract (valueOf x)) = 0 := by
      have same := (beq_iff_valueOf left.finite (by decide +kernel)).mp nought
      rwa [left.value, valueOf_zero] at same
    refine ⟨_, _, rfl, by decide +kernel, ?_⟩
    rw [fractionOf, nothing, mul_zero, nearest_zero, inParts, Int.floor_zero, Int.fract_zero,
      nearest_zero, valueOf_zero]
    push_cast
    ring
  next =>
    obtain ⟨scale, scaled, scaleFinite, scaleValue⟩ :=
      ofInt?_exact (fits_of_small small) (representable_intCast small)
    have product : Stands (scale * (x - floor)) (fractionOf unit (valueOf x)) := by
      refine Stands.mul ⟨scaleFinite, scaleValue⟩ left rfl ?_
      have unitNonneg : (0 : Rat) <= unit := Int.cast_nonneg positive.le
      rw [fractionOf, abs_nearest_lt_iff,
        abs_of_nonneg (mul_nonneg unitNonneg (nearest_fract_nonneg _))]
      refine (mul_le_of_le_one_right unitNonneg (nearest_fract_le _)).trans_lt ?_
      exact (le_abs_self _).trans_lt (abs_intCast_lt small)
    rw [scaled, Option.getD_some]
    generalize scale * (x - floor) = micros at product ⊢
    obtain ⟨productFinite, value⟩ := product
    have productNonneg : 0 <= valueOf micros := value ▸ fractionOf_nonneg positive _
    obtain ⟨cut, cutFloored, -⟩ := ofInt?_floor productFinite productNonneg
    have rest := stands_sub_floor productFinite productNonneg cutFloored
    rw [truncate_of_nonneg productFinite productNonneg]
    dsimp only
    rw [cutFloored, Option.getD_some]
    refine ⟨_, _, rfl, rest.finite, ?_⟩
    rw [rest.value, inParts, value]
    push_cast
    ring

theorem spanOf_eq (positive : 0 < unit) (small : |unit| < 2 ^ 53) (finite : isFinite x = true)
    (nonneg : 0 <= valueOf x) : spanOf unit (.real x) = checkSpan (spanAt unit (valueOf x)) := by
  obtain ⟨whole, fraction, split, fractionFinite, sum⟩ :=
    splitAmount_of_nonneg positive small finite nonneg
  have rounded : roundSum whole fraction = spanAt unit (valueOf x) := by
    rw [roundSum_eq whole fractionFinite, sum, spanAt]
  simp only [spanOf, split, bind, Except.bind, rounded]

theorem spanOf_of_nonneg (positive : 0 < unit) (small : |unit| < 2 ^ 53)
    (finite : isFinite x = true) (nonneg : 0 <= valueOf x) :
    ∃ span, spanOf unit (.real x) = checkSpan span ∧
      ⌊valueOf x⌋ * unit <= span ∧ span <= (⌊valueOf x⌋ + 1) * unit :=
  ⟨_, spanOf_eq positive small finite nonneg, le_spanAt positive _, spanAt_le positive small _⟩

end Amounts

theorem checkSpan_eq_ok {span checked : Int} :
    checkSpan span = .ok checked ↔ shortestSpan <= span ∧ span <= longestSpan ∧ span = checked := by
  unfold checkSpan
  split
  next within =>
    rw [Bool.and_eq_true, decide_eq_true_iff, decide_eq_true_iff] at within
    simp [within]
  next outside =>
    simp only [Bool.and_eq_true, decide_eq_true_iff] at outside
    refine iff_of_false nofun fun within => outside ⟨within.1, within.2.1⟩

theorem checkSpan_of_nonneg {span : Int} (nonneg : 0 <= span) (short : span <= longestSpan) :
    checkSpan span = .ok span := by
  have shortest : shortestSpan <= 0 := by decide
  simp [checkSpan, short, shortest.trans nonneg]

theorem inCalendar_iff {wall : Int} :
    inCalendar wall = true ↔ -62135596800000000 <= wall ∧ wall <= 253402300799999999 := by
  simp only [inCalendar, Bool.and_eq_true, decide_eq_true_eq]
  exact Iff.rfl

end Time

end SensorAlerting
