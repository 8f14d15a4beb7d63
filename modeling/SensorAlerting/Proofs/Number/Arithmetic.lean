import Mathlib.Tactic.FieldSimp
import Mathlib.Tactic.Positivity
import SensorAlerting.Proofs.Number.Nearest

set_option autoImplicit false

namespace SensorAlerting.Number

open Float.Model UnpackedFloat

theorem withSign_mul : (s t : Sign) -> (a b : Rat) ->
    withSign s a * withSign t b = withSign (s * t) (a * b)
  | .positive, .positive, _, _ => rfl
  | .positive, .negative, a, b => mul_neg a b
  | .negative, .positive, a, b => neg_mul a b
  | .negative, .negative, a, b => neg_mul_neg a b

theorem withSign_div : (s t : Sign) -> (a b : Rat) ->
    withSign s a / withSign t b = withSign (s / t) (a / b)
  | .positive, .positive, _, _ => rfl
  | .positive, .negative, a, _ => div_neg a
  | .negative, .positive, _, b => neg_div b _
  | .negative, .negative, a, b => neg_div_neg_eq a b

theorem withSign_zero (sign : Sign) : withSign sign 0 = 0 := by
  cases sign <;> simp [withSign]

theorem unpacked_zero (sign : Sign) (exponent : Int) : unpacked sign 0 exponent = .zero sign := rfl

theorem unpacked_pos {sign : Sign} {mantissa : Nat} {exponent : Int} (some : mantissa ≠ 0) :
    unpacked sign mantissa exponent =
      .finite sign mantissa exponent (Nat.pos_of_ne_zero some) := dif_neg some

theorem Normal.full_mul {m n : Nat} {e f : Int} (left : Normal m e) (right : Normal n f)
    (first : m ≠ 0) (second : n ≠ 0) :
    (2 : Rat) ^ (e + f + 52) <= (m * n : Nat) * 2 ^ (e + f) ∨ e + f <= -1074 := by
  have full : 2 ^ 52 <= m * n ∨ e + f <= -1074 := by
    rcases left.full with large | least
    next => exact .inl (large.trans (Nat.le_mul_of_pos_right m (Nat.pos_of_ne_zero second)))
    next =>
      rcases right.full with large | other
      next => exact .inl (large.trans (Nat.le_mul_of_pos_left n (Nat.pos_of_ne_zero first)))
      next => exact .inr (by omega)
  refine full.imp_left fun large => ?_
  rw [add_comm, power_add]
  exact mul_le_mul_of_nonneg_right (by exact_mod_cast large) (power_pos _).le

theorem rounded_mul (s t : Sign) {m n : Nat} {e f : Int} (left : Normal m e) (right : Normal n f) :
    Rounded (.mul .binary64 (unpacked s m e) (unpacked t n f))
      (withSign s (m * 2 ^ e) * withSign t (n * 2 ^ f)) := by
  by_cases first : m = 0
  next =>
    subst first
    rw [Nat.cast_zero, zero_mul, withSign_zero, zero_mul, unpacked_zero]
    by_cases second : n = 0
    next =>
      subst second
      exact rounded_zero (s * t)
    next =>
      rw [unpacked_pos second]
      exact rounded_zero (s * t)
  next =>
    rw [unpacked_pos first]
    by_cases second : n = 0
    next =>
      subst second
      rw [Nat.cast_zero, zero_mul, withSign_zero, mul_zero, unpacked_zero]
      exact rounded_zero (s * t)
    next =>
      have unit := power_pos (e + f)
      have exact : withSign s (m * 2 ^ e) * withSign t (n * 2 ^ f) =
          withSign (s * t) ((m * n : Nat) * 2 ^ (e + f)) := by
        rw [withSign_mul, power_add, Nat.cast_mul, mul_mul_mul_comm]
      rw [unpacked_pos second, exact]
      refine rounded_roundWithAccuracy (s * t) (by positivity) ?_ (early_of_full ?_)
      next => exact describes_exact (mul_div_cancel_right₀ _ unit.ne')
      next =>
        rw [abs_of_nonneg (by positivity)]
        exact left.full_mul right first second

def quotientPlace (m : Nat) (e : Int) (n : Nat) (f : Int) : Int :=
  min (e - f) (max ((m.log2 : Int) + e - n.log2 - f - 53) (-1074))

theorem divCore_eq (m : Nat) (e : Int) (n : Nat) (f : Int) :
    divCore .binary64 m e n f =
      (m * 2 ^ (e - f - quotientPlace m e n f).toNat / n, quotientPlace m e n f,
        accuracyOfFraction (m * 2 ^ (e - f - quotientPlace m e n f).toNat % n) n) := by
  have place :
      min (e - f) (Format.binary64.targetExponent (totalExponent m e - totalExponent n f)) =
        quotientPlace m e n f := by
    rw [targetExponent_eq, totalExponent, totalExponent, quotientPlace]
    omega
  rw [divCore, place]
  simp only [Nat.shiftLeft_eq]

theorem quotientPlace_full {m n : Nat} {e f : Int} (first : m ≠ 0) (second : n ≠ 0) :
    (2 : Rat) ^ (quotientPlace m e n f + 52) <= m * 2 ^ e / (n * 2 ^ f) ∨
      quotientPlace m e n f <= -1074 := by
  rcases le_or_gt (quotientPlace m e n f) (-1074) with small | large
  next => exact .inr small
  next =>
    have place : quotientPlace m e n f <= m.log2 + e - n.log2 - f - 53 := by
      unfold quotientPlace at large ⊢
      omega
    have units := power_pos e
    have unit := power_pos f
    have denominator : (0 : Rat) < n := Nat.cast_pos.mpr (Nat.pos_of_ne_zero second)
    refine .inl ((le_div_iff₀ (mul_pos denominator unit)).mpr ?_)
    calc (2 : Rat) ^ (quotientPlace m e n f + 52) * (n * 2 ^ f)
      _ <= 2 ^ (quotientPlace m e n f + 52) * (2 ^ ((n.log2 : Int) + 1) * 2 ^ f) :=
          mul_le_mul_of_nonneg_left
            (mul_le_mul_of_nonneg_right (lt_power_log2 n).le unit.le) (power_pos _).le
      _ = 2 ^ (quotientPlace m e n f + 52 + (n.log2 + 1 + f)) := by simp only [power_add]
      _ <= 2 ^ ((m.log2 : Int) + e) := power_mono (by omega)
      _ = 2 ^ (m.log2 : Int) * 2 ^ e := power_add _ _
      _ <= m * 2 ^ e := mul_le_mul_of_nonneg_right (power_log2_le first) units.le

theorem rounded_div (s t : Sign) {m n : Nat} {e f : Int} (second : n ≠ 0) :
    Rounded (.div .binary64 (unpacked s m e) (unpacked t n f))
      (withSign s (m * 2 ^ e) / withSign t (n * 2 ^ f)) := by
  rw [unpacked_pos second, withSign_div]
  by_cases first : m = 0
  next =>
    subst first
    rw [Nat.cast_zero, zero_mul, zero_div, withSign_zero, unpacked_zero]
    exact rounded_zero (s / t)
  next =>
    have divided : UnpackedFloat.div .binary64 (unpacked s m e)
        (.finite t n f (Nat.pos_of_ne_zero second)) =
        roundWithAccuracy .binary64 (s / t) (divCore .binary64 m e n f).1
          (divCore .binary64 m e n f).2.1 (divCore .binary64 m e n f).2.2 := by
      rw [unpacked_pos first]
      rfl
    have numerator : (0 : Rat) < m := Nat.cast_pos.mpr (Nat.pos_of_ne_zero first)
    have denominator : (0 : Rat) < n := Nat.cast_pos.mpr (Nat.pos_of_ne_zero second)
    have units := power_pos e
    have unit := power_pos f
    rw [divided, divCore_eq]
    -- From here on the place counts only through `quotientPlace_full` and `within`.
    obtain ⟨place, placed⟩ : ∃ place, quotientPlace m e n f = place := ⟨_, rfl⟩
    rw [placed]
    have within : place <= e - f := by
      rw [<- placed]
      exact min_le_left _ _
    obtain ⟨count, counted⟩ : ∃ count : Nat, e - f - place = count :=
      ⟨(e - f - place).toNat, by omega⟩
    refine rounded_roundWithAccuracy (s / t) (by positivity) ?_ (early_of_full ?_)
    next =>
      have same : (m * 2 ^ e / (n * 2 ^ f) / 2 ^ place : Rat) =
          ((m * 2 ^ (e - f - place).toNat : Nat) : Rat) / n := by
        rw [counted, Int.toNat_natCast, show e = f + place + count by omega, power_add, power_add,
          zpow_natCast]
        push_cast
        have := power_pos place
        field_simp
      rw [same]
      exact describes_quotient _ (Nat.pos_of_ne_zero second)
    next =>
      rw [abs_of_pos (by positivity), <- placed]
      exact quotientPlace_full first second

/-- Room is made in front of a mantissa before it is rounded. -/
theorem rounded_round (sign : Sign) {mantissa : Nat} (exponent : Int) (some : mantissa ≠ 0) :
    Rounded (round .binary64 sign mantissa exponent) (withSign sign (mantissa * 2 ^ exponent)) := by
  have unit := power_pos exponent
  unfold UnpackedFloat.round decreaseExponent
  rw [targetExponent_totalExponent]
  dsimp only
  obtain ⟨count, counted⟩ : ∃ count,
    (exponent - max ((mantissa.log2 : Int) + exponent - 52) (-1074)).toNat = count := ⟨_, rfl⟩
  rw [counted]
  refine rounded_roundWithAccuracy sign (by positivity) ?_ (early_of_full ?_)
  next =>
    refine describes_exact ?_
    rw [Nat.shiftLeft_eq, div_eq_iff (power_pos _).ne', zpow_sub₀ (by norm_num), zpow_natCast]
    push_cast
    field_simp
  next =>
    have positive : (0 : Rat) < mantissa := Nat.cast_pos.mpr (Nat.pos_of_ne_zero some)
    rw [abs_of_pos (mul_pos positive unit)]
    by_cases small : exponent - count <= -1074
    next => exact .inr small
    next =>
      refine .inl ?_
      calc (2 : Rat) ^ (exponent - count + 52) <= 2 ^ ((mantissa.log2 : Int) + exponent) :=
            power_mono (by omega)
        _ = 2 ^ (mantissa.log2 : Int) * 2 ^ exponent := power_add _ _
        _ <= mantissa * 2 ^ exponent :=
            mul_le_mul_of_nonneg_right (power_log2_le some) unit.le

theorem rounded_normalize (mantissa exponent : Int) (sign : Sign) :
    Rounded (UnpackedFloat.normalize .binary64 mantissa exponent sign)
      (mantissa * 2 ^ exponent) := by
  unfold UnpackedFloat.normalize
  rcases lt_trichotomy mantissa 0 with below | zero | above
  next =>
    rw [compare_lt_iff_lt.mpr below]
    obtain ⟨size, rfl⟩ : ∃ size : Nat, mantissa = -size := ⟨(-mantissa).toNat, by omega⟩
    have rounded := rounded_round .negative exponent (show size ≠ 0 by omega)
    rw [neg_neg, Int.toNat_natCast, Int.cast_neg, Int.cast_natCast, neg_mul]
    exact rounded
  next =>
    subst zero
    rw [Int.cast_zero, zero_mul]
    exact rounded_zero sign
  next =>
    rw [compare_gt_iff_gt.mpr above]
    obtain ⟨size, rfl⟩ := Int.eq_ofNat_of_zero_le above.le
    exact rounded_round .positive exponent (show size ≠ 0 by omega)

theorem apply_shifted (sign : Sign) (mantissa : Nat) {place exponent : Int}
    (order : place <= exponent) :
    (sign.apply (mantissa <<< (exponent - place).toNat : Nat) : Rat) * 2 ^ place =
      withSign sign (mantissa * 2 ^ exponent) := by
  obtain ⟨count, rfl⟩ : ∃ count : Nat, exponent = place + count :=
    ⟨(exponent - place).toNat, by omega⟩
  rw [show (place + count - place).toNat = count by omega, Nat.shiftLeft_eq, power_add,
    zpow_natCast]
  cases sign <;> simp [Sign.apply, withSign, isNegative] <;> ring

theorem rounded_add (s t : Sign) {m n : Nat} {e f : Int} (left : Normal m e) (right : Normal n f) :
    Rounded (.add .binary64 (unpacked s m e) (unpacked t n f))
      (withSign s (m * 2 ^ e) + withSign t (n * 2 ^ f)) := by
  by_cases first : m = 0
  next =>
    subst first
    rw [Nat.cast_zero, zero_mul, withSign_zero, zero_add, unpacked_zero]
    by_cases second : n = 0
    next =>
      subst second
      rw [Nat.cast_zero, zero_mul, withSign_zero, unpacked_zero]
      cases s <;> cases t <;> exact rounded_zero _
    next =>
      have kept := right.rounded t
      rw [unpacked_pos second] at kept ⊢
      exact kept
  next =>
    by_cases second : n = 0
    next =>
      subst second
      have kept := left.rounded s
      rw [Nat.cast_zero, zero_mul, withSign_zero, add_zero, unpacked_zero]
      rw [unpacked_pos first] at kept ⊢
      exact kept
    next =>
      rw [unpacked_pos first, unpacked_pos second]
      -- Brought to the smaller exponent both are integers, and their sum is exact.
      have sum := rounded_normalize (s.apply (m <<< (e - min e f).toNat : Nat) +
        t.apply (n <<< (f - min e f).toNat : Nat)) (min e f) .positive
      rw [Int.cast_add, add_mul, apply_shifted s m (min_le_left e f),
        apply_shifted t n (min_le_right e f)] at sum
      exact sum

theorem unpacked_sub (left right : UnpackedFloat) :
    UnpackedFloat.sub .binary64 left right = .add .binary64 left right.neg := by
  cases left <;> cases right <;> try rfl
  next s m e _ t n f _ =>
    cases t with
    | positive => rfl
    | negative => exact congrArg (UnpackedFloat.normalize _ · _ _) (sub_neg_eq_add _ _)

theorem neg_unpacked (sign : Sign) (mantissa : Nat) (exponent : Int) :
    (unpacked sign mantissa exponent).neg = unpacked (-sign) mantissa exponent := by
  rw [unpacked, unpacked]
  by_cases nought : mantissa = 0
  next => rw [dif_pos nought, dif_pos nought]; rfl
  next => rw [dif_neg nought, dif_neg nought]; rfl

theorem withSign_neg (sign : Sign) (size : Rat) : withSign (-sign) size = -withSign sign size := by
  cases sign with
  | positive => rfl
  | negative => exact (neg_neg size).symm

section Arithmetic

variable {x y : Float}

theorem isNearest_mul (left : isFinite x = true) (right : isFinite y = true) :
    IsNearest (x * y) (valueOf x * valueOf y) := by
  obtain ⟨s, m, e, first⟩ := exists_form left
  obtain ⟨t, n, f, second⟩ := exists_form right
  rw [first.value, second.value]
  refine isNearest_of_rounded (rounded_mul s t first.normal second.normal) ?_
  rw [<- first.unpack, <- second.unpack]
  rfl

theorem isNearest_div (left : isFinite x = true) (right : isFinite y = true)
    (some : valueOf y ≠ 0) : IsNearest (x / y) (valueOf x / valueOf y) := by
  obtain ⟨s, m, e, first⟩ := exists_form left
  obtain ⟨t, n, f, second⟩ := exists_form right
  have divisor : n ≠ 0 := by
    intro zero
    rw [second.value, zero, Nat.cast_zero, zero_mul, withSign_zero] at some
    exact some rfl
  rw [first.value, second.value]
  refine isNearest_of_rounded (rounded_div s t divisor) ?_
  rw [<- first.unpack, <- second.unpack]
  rfl

theorem isNearest_add (left : isFinite x = true) (right : isFinite y = true) :
    IsNearest (x + y) (valueOf x + valueOf y) := by
  obtain ⟨s, m, e, first⟩ := exists_form left
  obtain ⟨t, n, f, second⟩ := exists_form right
  rw [first.value, second.value]
  refine isNearest_of_rounded (rounded_add s t first.normal second.normal) ?_
  rw [<- first.unpack, <- second.unpack]
  rfl

theorem isNearest_sub (left : isFinite x = true) (right : isFinite y = true) :
    IsNearest (x - y) (valueOf x - valueOf y) := by
  obtain ⟨s, m, e, first⟩ := exists_form left
  obtain ⟨t, n, f, second⟩ := exists_form right
  rw [first.value, second.value, sub_eq_add_neg, <- withSign_neg]
  refine isNearest_of_rounded (rounded_add s (-t) first.normal second.normal) ?_
  rw [<- neg_unpacked, <- unpacked_sub, <- first.unpack, <- second.unpack]
  rfl

end Arithmetic

end SensorAlerting.Number
