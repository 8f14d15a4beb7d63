import SensorAlerting.Proofs.Number.Packing
import SensorAlerting.Proofs.Number.Rounding

set_option autoImplicit false

/-!
Doubles as rationals, and the double nearest to a rational. Arithmetic keeps a mantissa and what is
said of the bits after it; shifting these right until the last place is in place, and rounding
them there, gives what is nearest.
-/

namespace SensorAlerting.Number

open Float.Model UnpackedFloat

def valueOf (x : Float) : Rat :=
  match parts x with
  | .finite negative mantissa exponent =>
    (if negative then -(mantissa : Rat) else mantissa) * 2 ^ exponent
  | _ => 0

theorem valueOf_of_parts {x : Float} {mantissa : Nat} {exponent : Int}
    (read : parts x = .finite false mantissa exponent) : valueOf x = mantissa * 2 ^ exponent := by
  simp [valueOf, read]

def withSign (sign : Sign) (size : Rat) : Rat := if isNegative sign then -size else size

theorem Form.value {x : Float} {sign : Sign} {mantissa : Nat} {exponent : Int}
    (form : Form x sign mantissa exponent) :
    valueOf x = withSign sign (mantissa * 2 ^ exponent) := by
  rw [valueOf, form.parts]
  cases sign <;> simp [withSign, isNegative]

theorem abs_withSign (sign : Sign) (size : Rat) : |withSign sign size| = |size| := by
  cases sign <;> simp [withSign, isNegative]

theorem Form.abs_value {x : Float} {sign : Sign} {mantissa : Nat} {exponent : Int}
    (form : Form x sign mantissa exponent) : |valueOf x| = mantissa * 2 ^ exponent := by
  rw [form.value, abs_withSign]
  exact abs_of_nonneg (mul_nonneg (Nat.cast_nonneg _) (power_pos _).le)

theorem form_zero : Form 0 .positive 0 (-1074) where
  normal := ⟨by norm_num, le_rfl, .inr rfl⟩
  inRange := by norm_num
  bits := by decide +kernel

theorem valueOf_zero : valueOf 0 = 0 := by
  rw [form_zero.value]
  simp [withSign]

theorem nearest_withSign (sign : Sign) (size : Rat) :
    nearest (withSign sign size) = withSign sign (nearest size) := by
  cases sign with
  | positive => rfl
  | negative => exact nearest_neg size

/-- The outcome of arithmetic is what is nearest to the exact outcome, in normal form. -/
def Rounded (outcome : UnpackedFloat) (q : Rat) : Prop :=
  ∃ sign mantissa exponent, Normal mantissa exponent ∧
    withSign sign (mantissa * 2 ^ exponent) = nearest q ∧
    outcome = unpacked sign mantissa exponent

/-- A double is the one nearest to a rational, or an infinity where that is too large. -/
def IsNearest (x : Float) (q : Rat) : Prop :=
  ∃ sign mantissa exponent, Normal mantissa exponent ∧
    withSign sign (mantissa * 2 ^ exponent) = nearest q ∧
    x.toBits.toNat = signBits sign + sizeBits mantissa exponent

theorem isNearest_of_rounded {x : Float} {outcome : UnpackedFloat} {q : Rat}
    (rounded : Rounded outcome q) (packed : x.toModel = .pack outcome) : IsNearest x q := by
  obtain ⟨sign, mantissa, exponent, normal, value, rfl⟩ := rounded
  refine ⟨sign, mantissa, exponent, normal, value, ?_⟩
  rw [<- toNat_pack normal]
  exact congrArg (fun model : Float.Model => model.toBits.toNat) packed

theorem Normal.value_lt {mantissa : Nat} {exponent : Int} (normal : Normal mantissa exponent) :
    (mantissa : Rat) * 2 ^ exponent < 2 ^ (1024 : Int) ↔ exponent <= 971 := by
  have unit := power_pos exponent
  constructor
  next =>
    intro below
    by_contra large
    have full : (2 : Rat) ^ (52 : Int) <= mantissa := by
      have := normal.full.resolve_right (by omega)
      exact_mod_cast this
    have product := mul_le_mul_of_nonneg_right full unit.le
    rw [<- power_add] at product
    have := (zpow_lt_zpow_iff_right₀ (by norm_num : (1 : Rat) < 2)).mp (product.trans_lt below)
    omega
  next =>
    intro small
    have short : (mantissa : Rat) < 2 ^ (53 : Int) := by exact_mod_cast normal.fits
    calc (mantissa : Rat) * 2 ^ exponent < 2 ^ (53 : Int) * 2 ^ exponent :=
          mul_lt_mul_of_pos_right short unit
      _ = 2 ^ (53 + exponent) := (power_add 53 exponent).symm
      _ <= 2 ^ (1024 : Int) := zpow_le_zpow_right₀ (by norm_num) (by omega)

theorem Normal.sizeBits_eq_infinityBits {mantissa : Nat} {exponent : Int}
    (normal : Normal mantissa exponent) (large : ¬ exponent <= 971) :
    sizeBits mantissa exponent = infinityBits := by
  obtain ⟨fits, least, full⟩ := normal
  simp only [sizeBits, infinityBits, Nat.pow_eq]
  omega

theorem IsNearest.cases {x : Float} {q : Rat} (isNearest : IsNearest x q) :
    |q| < limit ∧ isFinite x = true ∧ isInfinite x = false ∧ valueOf x = nearest q ∨
      limit <= |q| ∧ isFinite x = false ∧ isInfinite x = true := by
  obtain ⟨sign, mantissa, exponent, normal, value, bits⟩ := isNearest
  have size : |nearest q| = mantissa * 2 ^ exponent := by
    rw [<- value, abs_withSign]
    exact abs_of_nonneg (mul_nonneg (Nat.cast_nonneg _) (power_pos _).le)
  have range := normal.value_lt
  rw [<- size, abs_nearest_lt_iff] at range
  by_cases small : exponent <= 971
  next =>
    have form : Form x sign mantissa exponent := ⟨normal, small, bits⟩
    refine .inl ⟨range.mpr small, ?_, ?_, ?_⟩
    next => rw [isFinite, form.parts]
    next => rw [isInfinite, form.parts]
    next => rw [form.value, value]
  next =>
    rw [normal.sizeBits_eq_infinityBits small] at bits
    have read := parts_of_infinityBits bits
    refine .inr ⟨not_lt.mp (mt range.mp small), ?_, ?_⟩
    next => rw [isFinite, read]
    next => rw [isInfinite, read]

theorem IsNearest.between {x : Float} {q lower upper : Rat} (isNearest : IsNearest x q)
    (low : lower <= q) (high : q <= upper) (representable : Representable lower)
    (other : Representable upper) (lowBound : |lower| < limit) (highBound : |upper| < limit) :
    isFinite x = true ∧ lower <= valueOf x ∧ valueOf x <= upper := by
  have bounded : |q| < limit := (abs_le_max_abs_abs low high).trans_lt (max_lt lowBound highBound)
  rcases isNearest.cases with ⟨-, finite, -, value⟩ | ⟨large, -⟩
  next =>
    rw [value]
    exact ⟨finite, le_nearest low representable, nearest_le high other⟩
  next => exact absurd bounded (not_lt.mpr large)

theorem Normal.representable {mantissa : Nat} {exponent : Int} (normal : Normal mantissa exponent) :
    Representable (mantissa * 2 ^ exponent) :=
  ⟨mantissa, exponent, by rw [Nat.abs_cast]; exact_mod_cast normal.fits, normal.least, by simp⟩

theorem representable_valueOf {x : Float} (finite : isFinite x = true) :
    Representable (valueOf x) := by
  obtain ⟨sign, mantissa, exponent, form⟩ := exists_form finite
  rw [form.value]
  cases sign with
  | positive => exact form.normal.representable
  | negative => exact form.normal.representable.neg

theorem abs_valueOf_lt_limit {x : Float} (finite : isFinite x = true) : |valueOf x| < limit := by
  obtain ⟨sign, mantissa, exponent, form⟩ := exists_form finite
  rw [<- abs_nearest_lt_iff, nearest_of_representable (representable_valueOf finite),
    form.abs_value]
  exact form.normal.value_lt.mpr form.inRange

/-- A mantissa with the bits after it, of which it is the integer part. -/
structure Describes (em : ExtendedMantissa) (q : Rat) : Prop where
  mantissa : ⌊q⌋ = em.mantissa
  roundBit : em.roundBit = decide (1 <= 2 * Int.fract q)
  stickyBit : em.stickyBit = decide (Int.fract q ≠ 0 ∧ 2 * Int.fract q ≠ 1)

theorem Describes.shiftRightOne {em : ExtendedMantissa} {q : Rat} (describes : Describes em q) :
    Describes em.shiftRightOne (q / 2) := by
  obtain ⟨mantissa, roundBit, stickyBit⟩ := describes
  have floor : ⌊q / 2⌋ = (em.mantissa / 2 : Nat) := by
    have halved := Int.floor_div_natCast q 2
    push_cast at halved ⊢
    rw [halved, mantissa]
  have whole : (2 : Rat) * ((em.mantissa / 2 : Nat) : Rat) + (em.mantissa % 2 : Nat) =
      em.mantissa := by
    exact_mod_cast Nat.div_add_mod em.mantissa 2
  have fraction : 2 * Int.fract (q / 2) = (em.mantissa % 2 : Nat) + Int.fract q := by
    rw [Int.fract, Int.fract, floor, mantissa]
    simp only [Int.cast_natCast]
    linarith
  have below := Int.fract_lt_one q
  have above := Int.fract_nonneg q
  refine ⟨floor, ?_, ?_⟩
  next =>
    rw [fraction]
    rcases Nat.mod_two_eq_zero_or_one em.mantissa with even | odd
    next => simp [ExtendedMantissa.shiftRightOne, even, below]
    next => simp [ExtendedMantissa.shiftRightOne, odd, above]
  next =>
    have sticky : (em.roundBit || em.stickyBit) = decide (Int.fract q ≠ 0) := by
      rw [roundBit, stickyBit, <- Bool.decide_or]
      refine decide_eq_decide.mpr ⟨?_, fun some => ?_⟩
      next =>
        rintro (late | ⟨some, -⟩) none
        next => linarith
        next => exact some none
      next =>
        by_cases half : 2 * Int.fract q = 1
        next => exact .inl half.ge
        next => exact .inr ⟨some, half⟩
    change (em.roundBit || em.stickyBit) = _
    rw [sticky, fraction]
    refine decide_eq_decide.mpr ?_
    rcases Nat.mod_two_eq_zero_or_one em.mantissa with even | odd
    next =>
      rw [even, Nat.cast_zero, zero_add] at fraction ⊢
      exact ⟨fun some => ⟨fun none => some (by linarith), below.ne⟩,
        fun more none => more.1 (by linarith)⟩
    next =>
      rw [odd, Nat.cast_one] at fraction ⊢
      exact ⟨fun some => ⟨fun none => by linarith, fun same => some (by linarith)⟩,
        fun more none => more.2 (by linarith)⟩

theorem Describes.shiftRight {em : ExtendedMantissa} {q : Rat} (describes : Describes em q)
    (count : Nat) : Describes (em >>> count) (q / 2 ^ count) := by
  induction count with
  | zero =>
    rw [pow_zero, div_one]
    exact describes
  | succ count ih =>
    rw [pow_succ, <- div_div]
    exact ih.shiftRightOne

theorem Describes.roundedMantissa {em : ExtendedMantissa} {q : Rat} (describes : Describes em q) :
    (em.roundedMantissa : Int) = nearestWhole q := by
  obtain ⟨mantissa, roundBit, stickyBit⟩ := describes
  obtain ⟨whole, round, sticky⟩ := em
  dsimp only at mantissa roundBit stickyBit
  unfold nearestWhole
  rw [mantissa]
  cases round with
  | false =>
    have below : 2 * Int.fract q < 1 := not_le.mp (decide_eq_false_iff_not.mp roundBit.symm)
    rw [if_pos below]
    cases sticky <;> rfl
  | true =>
    have above : 1 <= 2 * Int.fract q := of_decide_eq_true roundBit.symm
    rw [if_neg (not_lt.mpr above)]
    cases sticky with
    | false =>
      have half : 2 * Int.fract q = 1 := by
        have none := decide_eq_false_iff_not.mp stickyBit.symm
        by_contra other
        exact none ⟨fun zero => by linarith, other⟩
      rw [if_neg half.le.not_gt]
      rfl
    | true =>
      have more := (of_decide_eq_true stickyBit.symm).2
      rw [if_pos (lt_of_le_of_ne above (Ne.symm more))]
      rfl

theorem describes_exact {mantissa : Nat} {q : Rat} (same : q = mantissa) :
    Describes (.ofMantissaAndAccuracy mantissa .exact) q := by
  subst same
  constructor <;> simp [ExtendedMantissa.ofMantissaAndAccuracy]

theorem describes_quotient (numerator : Nat) {denominator : Nat} (pos : 0 < denominator) :
    Describes (.ofMantissaAndAccuracy (numerator / denominator)
      (accuracyOfFraction (numerator % denominator) denominator))
      (numerator / denominator : Rat) := by
  have floor : ⌊(numerator / denominator : Rat)⌋ = (numerator / denominator : Nat) :=
    (Int.floor_div_natCast _ denominator).trans (by rw [Int.floor_natCast, Int.natCast_ediv])
  have fraction : Int.fract (numerator / denominator : Rat) =
      (numerator % denominator : Nat) / denominator :=
    Int.fract_div_natCast_eq_div_natCast_mod
  have positive : (0 : Rat) < denominator := Nat.cast_pos.mpr pos
  generalize numerator % denominator = rest at *
  unfold accuracyOfFraction
  split
  next none =>
    refine ⟨floor, ?_, ?_⟩ <;> simp [fraction, none, ExtendedMantissa.ofMantissaAndAccuracy]
  next some =>
    have more : (rest : Rat) / denominator ≠ 0 :=
      div_ne_zero (Nat.cast_ne_zero.mpr some) positive.ne'
    have twice : 2 * ((rest : Rat) / denominator) = (2 * rest : Nat) / denominator := by
      push_cast
      ring
    rcases lt_trichotomy (2 * rest) denominator with below | half | above
    next =>
      rw [compare_lt_iff_lt.mpr below]
      have short : 2 * ((rest : Rat) / denominator) < 1 := by
        rw [twice, div_lt_one positive]
        exact_mod_cast below
      refine ⟨floor, ?_, ?_⟩ <;> rw [fraction]
      next => simp [ExtendedMantissa.ofMantissaAndAccuracy, short]
      next => simp [ExtendedMantissa.ofMantissaAndAccuracy, more, short.ne]
    next =>
      rw [compare_eq_iff_eq.mpr half]
      have same : 2 * ((rest : Rat) / denominator) = 1 := by
        rw [twice, half, div_self positive.ne']
      refine ⟨floor, ?_, ?_⟩ <;> rw [fraction]
      next => simp [ExtendedMantissa.ofMantissaAndAccuracy, same]
      next => simp [ExtendedMantissa.ofMantissaAndAccuracy, same]
    next =>
      rw [compare_gt_iff_gt.mpr above]
      have long : 1 < 2 * ((rest : Rat) / denominator) := by
        rw [twice, one_lt_div positive]
        exact_mod_cast above
      refine ⟨floor, ?_, ?_⟩ <;> rw [fraction]
      next => simp [ExtendedMantissa.ofMantissaAndAccuracy, long.le]
      next => simp [ExtendedMantissa.ofMantissaAndAccuracy, more, long.ne']

theorem targetExponent_eq (total : Int) :
    Format.binary64.targetExponent total = max (total - 53) (-1074) := rfl

theorem targetExponent_totalExponent (mantissa : Nat) (exponent : Int) :
    Format.binary64.targetExponent (totalExponent mantissa exponent) =
      max ((mantissa.log2 : Int) + exponent - 52) (-1074) := by
  rw [targetExponent_eq, totalExponent]
  omega

theorem target_eq {mantissa : Nat} {exponent : Int} {q : Rat} (nonneg : 0 <= q)
    (floor : ⌊q / 2 ^ exponent⌋ = mantissa) (early : exponent <= lastPlace q) :
    Format.binary64.targetExponent (totalExponent mantissa exponent) = lastPlace q := by
  have unit := power_pos exponent
  have upper : q < (mantissa + 1) * 2 ^ exponent := by
    rw [<- div_lt_iff₀ unit]
    have := Int.lt_floor_add_one (q / 2 ^ exponent)
    rwa [floor] at this
  rw [targetExponent_totalExponent]
  by_cases nought : mantissa = 0
  next =>
    -- Nothing is left before the point, and the last place is the smallest one.
    subst nought
    rcases lastPlace_full q with full | least
    next =>
      rw [abs_of_nonneg nonneg] at full
      rw [Nat.cast_zero, zero_add, one_mul] at upper
      have := power_lt_iff.mp (full.trans_lt upper)
      omega
    next =>
      rw [least, Nat.log2_zero]
      omega
  next =>
    have lower : (mantissa : Rat) * 2 ^ exponent <= q := by
      rw [<- le_div_iff₀ unit]
      have := Int.floor_le (q / 2 ^ exponent)
      rwa [floor] at this
    have low : (2 : Rat) ^ ((mantissa.log2 : Int) + exponent) <= q := by
      refine le_trans ?_ lower
      rw [power_add]
      exact mul_le_mul_of_nonneg_right (power_log2_le nought) unit.le
    have high : q < 2 ^ ((mantissa.log2 : Int) + 1 + exponent) := by
      refine upper.trans_le ?_
      rw [power_add]
      exact mul_le_mul_of_nonneg_right (by exact_mod_cast Nat.lt_log2_self) unit.le
    refine (lastPlace_eq ?_ (le_max_right _ _) ?_).symm
    next =>
      rcases le_total ((mantissa.log2 : Int) + exponent - 52) (-1074) with small | large
      next => exact .inr (max_eq_right small)
      next =>
        refine .inl ?_
        rw [max_eq_left large, Int.sub_add_cancel, abs_of_nonneg nonneg]
        exact low
    next =>
      rw [abs_of_nonneg nonneg]
      refine high.trans_le (power_mono ?_)
      omega

/-- The first shift brings the last place into place. -/
theorem shiftToTargetExponent_spec {mantissa : Nat} {exponent : Int} {accuracy : Accuracy}
    {q : Rat} (nonneg : 0 <= q)
    (describes : Describes (.ofMantissaAndAccuracy mantissa accuracy) (q / 2 ^ exponent))
    (early : exponent <= lastPlace q) :
    ∃ em, shiftToTargetExponent .binary64 mantissa exponent accuracy = (em, lastPlace q) ∧
      Describes em (q / 2 ^ lastPlace q) := by
  have given : (ExtendedMantissa.ofMantissaAndAccuracy mantissa accuracy).mantissa = mantissa := by
    cases accuracy with
    | exact => rfl
    | inexact order => cases order <;> rfl
  have floor := describes.mantissa
  rw [given] at floor
  have target := target_eq nonneg floor early
  obtain ⟨count, later⟩ : ∃ count : Nat, lastPlace q = exponent + count :=
    ⟨(lastPlace q - exponent).toNat, by omega⟩
  have shifted := describes.shiftRight count
  rw [div_div, <- zpow_natCast, <- power_add, <- later] at shifted
  refine ⟨_, ?_, shifted⟩
  rw [shiftToTargetExponent, target, shiftToExponent]
  have amount : (lastPlace q - exponent).toNat = count := by omega
  rw [amount, <- later]

theorem rounded_roundWithAccuracy (sign : Sign) {mantissa : Nat} {exponent : Int}
    {accuracy : Accuracy} {q : Rat} (nonneg : 0 <= q)
    (describes : Describes (.ofMantissaAndAccuracy mantissa accuracy) (q / 2 ^ exponent))
    (early : exponent <= lastPlace q) :
    Rounded (roundWithAccuracy .binary64 sign mantissa exponent accuracy) (withSign sign q) := by
  obtain ⟨em, shifted, described⟩ := shiftToTargetExponent_spec nonneg describes early
  have rounded : nearest q / 2 ^ lastPlace q = (em.roundedMantissa : Nat) := by
    rw [nearest, mul_div_assoc, div_self (power_pos _).ne', mul_one, <- described.roundedMantissa,
      Int.cast_natCast]
  -- A mantissa that has carried is shifted once more.
  obtain ⟨final, again, full⟩ := shiftToTargetExponent_spec (nearest_nonneg nonneg)
    (describes_exact rounded) (lastPlace_le_nearest nonneg)
  obtain ⟨whole, exact, fits, filled⟩ := exists_mantissa nonneg
  have natural : final.mantissa = whole := by
    have quotient := (div_eq_iff (power_pos _).ne').mpr exact
    have floor := full.mantissa
    rw [quotient, Int.floor_natCast] at floor
    exact_mod_cast floor.symm
  refine ⟨sign, whole, lastPlace (nearest q), ⟨fits, least_lastPlace _, filled⟩, ?_, ?_⟩
  next => rw [<- exact, nearest_withSign]
  next =>
    unfold roundWithAccuracy
    rw [shifted]
    dsimp only
    rw [again, <- natural]
    rfl

theorem early_of_full {q : Rat} {exponent : Int}
    (full : 2 ^ (exponent + 52) <= |q| ∨ exponent <= -1074) : exponent <= lastPlace q := by
  rcases full with full | least
  next =>
    have := power_lt_iff.mp (full.trans_lt (lt_lastPlace q))
    omega
  next => exact least.trans (least_lastPlace q)

theorem rounded_zero (sign : Sign) : Rounded (.zero sign) 0 :=
  ⟨sign, 0, -1074, ⟨by norm_num, le_rfl, .inr rfl⟩, by simp [withSign], rfl⟩

theorem Normal.rounded {mantissa : Nat} {exponent : Int} (normal : Normal mantissa exponent)
    (sign : Sign) :
    Rounded (unpacked sign mantissa exponent) (withSign sign (mantissa * 2 ^ exponent)) :=
  ⟨sign, mantissa, exponent, normal,
    by rw [nearest_withSign, nearest_of_representable normal.representable], rfl⟩

end SensorAlerting.Number
