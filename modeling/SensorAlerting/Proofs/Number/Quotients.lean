import Mathlib.Data.Nat.Digits.Lemmas
import SensorAlerting.Proofs.Number.Nearest

set_option autoImplicit false

namespace SensorAlerting.Number

open Float.Model UnpackedFloat

theorem roundQuotient_eq (numerator : Nat) {denominator : Nat} (pos : 0 < denominator) :
    (roundQuotient numerator denominator : Int) =
      nearestWhole (numerator / denominator : Rat) := by
  have rounded := nearestWhole_div numerator pos
  rw [Int.cast_natCast] at rounded
  rw [rounded, roundQuotient]
  split_ifs <;> first | rfl | omega

theorem shifted_pos (numerator : Nat) {denominator : Nat} (pos : 0 < denominator)
    (exponent : Int) : 0 < (shifted numerator denominator exponent).2 :=
  Nat.mul_pos pos (Nat.two_pow_pos _)

theorem shifted_eq (numerator denominator : Nat) (exponent : Int) :
    ((shifted numerator denominator exponent).1 : Rat) /
        (shifted numerator denominator exponent).2 = numerator / denominator / 2 ^ exponent := by
  simp only [shifted, Nat.pow_eq]
  push_cast
  rw [<- power_mul_toNat exponent, div_div, mul_comm (2 ^ exponent : Rat), <- mul_assoc,
    mul_right_comm, mul_div_mul_right _ _ (by positivity)]

theorem exists_normal {q : Rat} (nonneg : 0 <= q) :
    ∃ mantissa exponent, Normal mantissa exponent ∧ (mantissa : Rat) * 2 ^ exponent = nearest q ∧
      sizeBits (nearestWhole (q / 2 ^ lastPlace q)).toNat (lastPlace q) =
        sizeBits mantissa exponent := by
  have upper := nearestWhole_lastPlace_le q
  have least := least_lastPlace q
  have natural : 0 <= nearestWhole (q / 2 ^ lastPlace q) := by
    have rounded := nearest_nonneg nonneg
    rw [nearest] at rounded
    exact Int.cast_nonneg_iff.mp (nonneg_of_mul_nonneg_left rounded (power_pos _))
  have value : ((nearestWhole (q / 2 ^ lastPlace q)).toNat : Rat) * 2 ^ lastPlace q =
      nearest q := by
    rw [nearest, <- Int.cast_natCast, Int.toNat_of_nonneg natural]
  rcases upper.lt_or_eq with short | carried
  next =>
    refine ⟨_, _, ⟨by omega, least, ?_⟩, value, rfl⟩
    refine (lastPlace_full q).imp_left fun full => ?_
    rw [abs_of_nonneg nonneg] at full
    have := le_nearestWhole_lastPlace full
    omega
  next =>
    rw [carried, show ((2 : Int) ^ 53).toNat = 2 ^ 53 from rfl] at value ⊢
    refine ⟨2 ^ 52, lastPlace q + 1, ⟨by norm_num, by omega, .inl le_rfl⟩, ?_,
      sizeBits_carry least⟩
    rw [<- value, power_add]
    push_cast
    ring

section Exponent

variable {n d : Nat}

theorem quotient_lower (some : n ≠ 0) (pos : 0 < d) :
    (2 : Rat) ^ ((n.log2 : Int) - d.log2 - 1) <= n / d := by
  rw [le_div_iff₀ (Nat.cast_pos.mpr pos)]
  calc (2 : Rat) ^ ((n.log2 : Int) - d.log2 - 1) * d
    _ <= 2 ^ ((n.log2 : Int) - d.log2 - 1) * 2 ^ ((d.log2 : Int) + 1) :=
        mul_le_mul_of_nonneg_left (lt_power_log2 d).le (power_pos _).le
    _ = 2 ^ (n.log2 : Int) := by rw [<- power_add]; congr 1; omega
    _ <= n := power_log2_le some

theorem quotient_upper (pos : 0 < d) : (n : Rat) / d < 2 ^ ((n.log2 : Int) - d.log2 + 1) := by
  rw [div_lt_iff₀ (Nat.cast_pos.mpr pos)]
  calc (n : Rat) < 2 ^ ((n.log2 : Int) + 1) := lt_power_log2 n
    _ = 2 ^ ((n.log2 : Int) - d.log2 + 1) * 2 ^ (d.log2 : Int) := by
        rw [<- power_add]; congr 1; omega
    _ <= 2 ^ ((n.log2 : Int) - d.log2 + 1) * d :=
        mul_le_mul_of_nonneg_left (power_log2_le pos.ne') (power_pos _).le

def exponentOf (n d : Nat) : Int :=
  let guess : Int := max ((n.log2 : Int) - (d.log2 : Int) - 52) (-1074)
  let trial := shifted n d guess
  if trial.1 / trial.2 < Nat.pow 2 52 then max (guess - 1) (-1074) else guess

theorem shifted_short (n : Nat) (pos : 0 < d) (place : Int) :
    (shifted n d place).1 / (shifted n d place).2 < Nat.pow 2 52 ↔
      (n : Rat) / d < 2 ^ (place + 52) := by
  have divisor : (0 : Rat) < (shifted n d place).2 := Nat.cast_pos.mpr (shifted_pos n pos place)
  rw [Nat.div_lt_iff_lt_mul (shifted_pos n pos place), add_comm place, power_add,
    <- div_lt_iff₀ (power_pos place), <- shifted_eq, div_lt_iff₀ divisor]
  norm_cast

theorem exponentOf_eq (some : n ≠ 0) (pos : 0 < d) :
    exponentOf n d = lastPlace ((n : Rat) / d) := by
  have lower := quotient_lower some pos
  have upper := quotient_upper (n := n) pos
  have nonneg : (0 : Rat) <= n / d := by positivity
  unfold exponentOf
  simp only [shifted_short n pos]
  split
  next short =>
    refine (lastPlace_eq ?_ (le_max_right _ _) ?_).symm <;> rw [abs_of_nonneg nonneg]
    next =>
      rcases le_or_gt ((n.log2 : Int) - d.log2 - 53) (-1074) with small | large
      next => exact .inr (by omega)
      next => exact .inl ((power_mono (by omega)).trans lower)
    next => exact short.trans_le (power_mono (by omega))
  next long =>
    refine (lastPlace_eq ?_ (le_max_right _ _) ?_).symm <;> rw [abs_of_nonneg nonneg]
    next => exact .inl (not_lt.mp long)
    next => exact upper.trans_le (power_mono (by omega))

end Exponent

theorem magnitudeBits_eq (n : Nat) {d : Nat} (pos : 0 < d) :
    ∃ mantissa exponent, Normal mantissa exponent ∧
      (mantissa : Rat) * 2 ^ exponent = nearest (n / d) ∧
      magnitudeBits n d = sizeBits mantissa exponent := by
  by_cases none : n = 0
  next =>
    subst none
    refine ⟨0, -1074, ⟨by norm_num, le_rfl, .inr rfl⟩, by simp, by simp [magnitudeBits, sizeBits]⟩
  next =>
    obtain ⟨mantissa, exponent, normal, value, bits⟩ := exists_normal
      (show (0 : Rat) <= n / d by positivity)
    refine ⟨mantissa, exponent, normal, value, ?_⟩
    have whole := roundQuotient_eq (shifted n d (exponentOf n d)).1
      (shifted_pos n pos (exponentOf n d))
    rw [shifted_eq, exponentOf_eq none pos] at whole
    rw [<- bits, <- whole, Int.toNat_natCast, <- exponentOf_eq none pos]
    unfold magnitudeBits
    rw [if_neg (by simpa using none)]
    rfl

theorem sizeBits_le (mantissa : Nat) (exponent : Int) :
    sizeBits mantissa exponent <= infinityBits := min_le_right _ _

theorem toBits_ofBits {bits : Nat} {sign : Sign} {mantissa : Nat} {exponent : Int}
    (normal : Normal mantissa exponent)
    (whole : bits = signBits sign + sizeBits mantissa exponent) :
    (Float.ofBits (.ofNat bits)).toBits.toNat = bits := by
  have within : bits < 2 ^ 64 := by
    have capped := sizeBits_le mantissa exponent
    have signed := signBits_le sign
    simp only [infinityBits, Nat.pow_eq] at capped
    omega
  have given : (UInt64.ofNat bits).toBitVec.toNat = bits := by
    rw [UInt64.toNat_toBitVec, UInt64.toNat_ofNat', Nat.mod_eq_of_lt within]
  change (UnpackedFloat.pack .binary64 (UnpackedFloat.unpack .binary64
    (UInt64.ofNat bits).toBitVec)).toNat = bits
  by_cases small : exponent <= 971
  next =>
    rw [unpack_finite normal small (given.trans whole), toNat_pack normal, whole]
  next =>
    rw [normal.sizeBits_eq_infinityBits small] at whole
    rw [unpack_infinity (given.trans whole), toNat_pack_infinity, whole]

theorem exists_isNegative (negative : Bool) : ∃ sign, isNegative sign = negative := by
  cases negative with
  | false => exact ⟨.positive, rfl⟩
  | true => exact ⟨.negative, rfl⟩

theorem isNearest_ofQuotient (negative : Bool) (n : Nat) {d : Nat} (pos : 0 < d) :
    IsNearest (ofQuotient negative n d) (if negative then -(n / d : Rat) else n / d) := by
  obtain ⟨mantissa, exponent, normal, value, bits⟩ := magnitudeBits_eq n pos
  obtain ⟨sign, rfl⟩ := exists_isNegative negative
  have whole : (if isNegative sign then magnitudeBits n d + Nat.pow 2 63 else magnitudeBits n d) =
      signBits sign + sizeBits mantissa exponent := by
    rw [bits, signBits]
    split
    next => exact add_comm _ _
    next => exact (zero_add _).symm
  refine ⟨sign, mantissa, exponent, normal, ?_, ?_⟩
  next =>
    rw [value]
    exact (nearest_withSign sign _).symm
  next =>
    rw [<- whole]
    exact toBits_ofBits normal whole

theorem magnitudeBits_large {n d : Nat} (pos : 0 < d) (large : limit <= n / d) :
    magnitudeBits n d = infinityBits := by
  obtain ⟨mantissa, exponent, normal, value, bits⟩ := magnitudeBits_eq n pos
  have nonneg : (0 : Rat) <= n / d := by positivity
  rw [bits, normal.sizeBits_eq_infinityBits]
  rw [<- normal.value_lt, value, <- abs_of_nonneg (nearest_nonneg nonneg), abs_nearest_lt_iff,
    abs_of_nonneg nonneg]
  exact not_lt.mpr large

theorem nearest_small {q : Rat} (nonneg : 0 <= q) (small : q < 2 ^ (-1075 : Int)) :
    nearest q = 0 := by
  have place : lastPlace q = -1074 := by
    refine lastPlace_eq (.inr rfl) le_rfl ?_
    rw [abs_of_nonneg nonneg]
    exact small.trans_le (power_mono (by norm_num))
  have half : q / 2 ^ (-1074 : Int) < (0 : Int) + 1 / 2 := by
    rw [div_lt_iff₀ (power_pos _)]
    refine small.trans_eq ?_
    rw [show (-1075 : Int) = -1 + -1074 by norm_num, power_add]
    norm_num
  have whole := nearestWhole_le half
  refine le_antisymm ?_ (nearest_nonneg nonneg)
  rw [nearest, place]
  exact mul_nonpos_of_nonpos_of_nonneg (Int.cast_nonpos.mpr whole) (power_pos _).le

theorem magnitudeBits_small {n d : Nat} (pos : 0 < d)
    (small : (n : Rat) / d < 2 ^ (-1075 : Int)) : magnitudeBits n d = 0 := by
  obtain ⟨mantissa, exponent, normal, value, bits⟩ := magnitudeBits_eq n pos
  rw [nearest_small (by positivity) small] at value
  have nought : mantissa = 0 := by
    have factor := (mul_eq_zero.mp value).resolve_right (power_pos exponent).ne'
    exact Nat.cast_eq_zero.mp factor
  have least := normal.full.resolve_left (by omega)
  rw [bits, nought, least]
  rfl

section Decimals

theorem limit_le {huge : Rat} (large : 2 ^ (1024 : Nat) <= huge) : limit <= huge := by
  rw [limit, zpow_ofNat, zpow_ofNat]
  exact (sub_le_self _ (by positivity)).trans large

theorem limit_le_power : limit <= (10 : Rat) ^ 400 := by
  have naturals : 2 ^ 1024 <= 10 ^ 400 := by decide +kernel
  exact limit_le (by exact_mod_cast naturals)

theorem one_le_scale : (1 : Rat) <= 2 ^ (-1075 : Int) * 10 ^ 401 := by
  have powers : (2 : Rat) ^ (1075 : Nat) <= 10 ^ (401 : Nat) := by
    have naturals : 2 ^ 1075 <= 10 ^ 401 := by decide +kernel
    exact_mod_cast naturals
  rwa [zpow_neg, zpow_ofNat, inv_mul_eq_div, one_le_div (by positivity)]

theorem magnitudeBits_huge {huge : Nat} (large : 2 ^ 1024 <= huge) :
    magnitudeBits huge 1 = infinityBits := by
  refine magnitudeBits_large one_pos ?_
  rw [Nat.cast_one, div_one]
  exact limit_le (by exact_mod_cast large)

variable {digits places : Nat}

theorem magnitudeBits_many (many : 10 ^ (400 + places) <= digits) :
    magnitudeBits digits (Nat.pow 10 places) = infinityBits := by
  have pos : 0 < Nat.pow 10 places := Nat.pow_pos (by norm_num)
  refine magnitudeBits_large pos ((le_div_iff₀ (Nat.cast_pos.mpr pos)).mpr ?_)
  rw [Nat.pow_eq, Nat.cast_pow, Nat.cast_ofNat]
  calc limit * 10 ^ places <= 10 ^ 400 * 10 ^ places :=
        mul_le_mul_of_nonneg_right limit_le_power (by positivity)
    _ = 10 ^ (400 + places) := (pow_add _ _ _).symm
    _ <= digits := by exact_mod_cast many

theorem magnitudeBits_few (later : 401 <= places) (few : digits < 10 ^ (places - 401)) :
    magnitudeBits digits (Nat.pow 10 places) = 0 := by
  have pos : 0 < Nat.pow 10 places := Nat.pow_pos (by norm_num)
  refine magnitudeBits_small pos ((div_lt_iff₀ (Nat.cast_pos.mpr pos)).mpr ?_)
  rw [Nat.pow_eq, Nat.cast_pow, Nat.cast_ofNat]
  calc (digits : Rat) < 10 ^ (places - 401) := by exact_mod_cast few
    _ <= 2 ^ (-1075 : Int) * 10 ^ 401 * 10 ^ (places - 401) :=
        le_mul_of_one_le_left (by positivity) one_le_scale
    _ = 2 ^ (-1075 : Int) * 10 ^ places := by
        rw [mul_assoc, <- pow_add, Nat.add_sub_cancel' later]

theorem ofQuotient_congr (negative : Bool) {n d m e : Nat}
    (same : magnitudeBits n d = magnitudeBits m e) :
    ofQuotient negative n d = ofQuotient negative m e := by
  rw [ofQuotient, ofQuotient, same]

theorem ofQuotient_huge (negative : Bool) {huge n d : Nat} (large : 2 ^ 1024 <= huge)
    (infinite : magnitudeBits n d = infinityBits) :
    ofQuotient negative huge 1 = ofQuotient negative n d :=
  ofQuotient_congr negative ((magnitudeBits_huge large).trans infinite.symm)

theorem ofDecimal_places (negative : Bool) (digits places : Nat) :
    ofDecimal negative digits (-(places : Int)) =
      ofQuotient negative digits (Nat.pow 10 places) := by
  unfold ofDecimal
  dsimp only
  split
  next none =>
    simp only [beq_iff_eq] at none
    simp [none, ofQuotient, magnitudeBits]
  next some =>
    split
    next many =>
      have large : 10 ^ (400 + places) <= digits := by
        rw [<- not_lt, <- Nat.length_toDigits_le_iff (by norm_num) (by omega)]
        omega
      exact ofQuotient_huge negative (by decide +kernel) (magnitudeBits_many large)
    next =>
      split
      next few =>
        have positive := Nat.length_toDigits_pos (b := 10) (n := digits)
        have small : digits < 10 ^ (places - 401) := by
          rw [<- Nat.length_toDigits_le_iff (by norm_num) (by omega)]
          omega
        exact ofQuotient_congr negative (magnitudeBits_few (by omega) small).symm
      next =>
        have whole : (-(places : Int)).toNat = 0 := by omega
        rw [neg_neg, Int.toNat_natCast, whole, Nat.pow_eq, Nat.pow_zero, Nat.mul_one]

end Decimals

section Integers

theorem isNearest_ofInt (n : Int) : IsNearest (ofQuotient (decide (n < 0)) n.natAbs 1) n := by
  have rounded := isNearest_ofQuotient (decide (n < 0)) n.natAbs one_pos
  have exact : (if decide (n < 0) then -((n.natAbs : Rat) / (1 : Nat)) else n.natAbs / (1 : Nat)) =
      n := by
    rw [Nat.cast_one, div_one]
    split
    next below =>
      rw [decide_eq_true_eq] at below
      rw [<- Int.cast_natCast, Int.ofNat_natAbs_of_nonpos below.le, Int.cast_neg, neg_neg]
    next above =>
      rw [decide_eq_true_eq, not_lt] at above
      rw [<- Int.cast_natCast, Int.natAbs_of_nonneg above]
  rwa [exact] at rounded

/-- The integers for which there is a nearest double. -/
def Fits (n : Int) : Prop := n.natAbs < 2 ^ 1024 - 2 ^ 970

theorem power_sub_cast (less more : Nat) (order : less <= more) :
    ((2 ^ more - 2 ^ less : Nat) : Rat) = 2 ^ (more : Int) - 2 ^ (less : Int) := by
  rw [Nat.cast_sub (Nat.pow_le_pow_right (by norm_num) order), zpow_natCast, zpow_natCast]
  push_cast
  rfl

theorem fits_iff {n : Int} : Fits n ↔ |(n : Rat)| < limit := by
  have limits : limit = ((2 ^ 1024 - 2 ^ 970 : Nat) : Rat) :=
    (power_sub_cast 970 1024 (by norm_num)).symm
  rw [limits, <- Int.cast_abs, Int.abs_eq_natAbs, Int.cast_natCast, Nat.cast_lt, Fits]

theorem ofInt?_of_fits {n : Int} (fits : Fits n) :
    ∃ x, ofInt? n = some x ∧ isFinite x = true ∧ valueOf x = nearest n := by
  rcases (isNearest_ofInt n).cases with ⟨-, finite, bounded, value⟩ | ⟨large, -⟩
  next => exact ⟨_, by rw [ofInt?, bounded]; rfl, finite, value⟩
  next => exact absurd (fits_iff.mp fits) (not_lt.mpr large)

theorem fits_of_small {n : Int} (small : |n| < 2 ^ 53) : Fits n := by
  have few : n.natAbs < 2 ^ 53 := by
    rw [Int.abs_eq_natAbs] at small
    omega
  exact few.trans (by decide +kernel)

theorem representable_intCast {n : Int} (small : |n| < 2 ^ 53) : Representable n :=
  ⟨n, 0, small, by norm_num, by simp⟩

theorem ofInt?_exact {n : Int} (fits : Fits n) (representable : Representable n) :
    ∃ x, ofInt? n = some x ∧ isFinite x = true ∧ valueOf x = n := by
  obtain ⟨x, converted, finite, value⟩ := ofInt?_of_fits fits
  exact ⟨x, converted, finite, value.trans (nearest_of_representable representable)⟩

theorem ofInt?_of_not_fits {n : Int} (beyond : ¬ Fits n) : ofInt? n = none := by
  rcases (isNearest_ofInt n).cases with ⟨small, -⟩ | ⟨-, -, infinite⟩
  next => exact absurd (fits_iff.mpr small) beyond
  next => rw [ofInt?, infinite]; rfl

theorem fits_of_ofInt? {n : Int} {x : Float} (converted : ofInt? n = some x) : Fits n := by
  by_contra beyond
  rw [ofInt?_of_not_fits beyond] at converted
  cases converted

section Converted

variable {n bound : Int} {x : Float} (converted : ofInt? n = some x) (small : |bound| < 2 ^ 52)

include converted

theorem isFinite_of_ofInt? : isFinite x = true := by
  obtain ⟨y, same, finite, -⟩ := ofInt?_of_fits (fits_of_ofInt? converted)
  rwa [Option.some.inj (converted.symm.trans same)]

theorem valueOf_of_ofInt? : valueOf x = nearest n := by
  obtain ⟨y, same, -, value⟩ := ofInt?_of_fits (fits_of_ofInt? converted)
  rwa [Option.some.inj (converted.symm.trans same)]

include small

/-- Rounding to a double does not carry an integer over a small one. -/
theorem le_valueOf_iff_of_ofInt? : bound <= valueOf x ↔ bound <= n := by
  obtain ⟨low, high⟩ := abs_lt.mp small
  rw [valueOf_of_ofInt? converted]
  refine ⟨fun order => ?_, fun order => ?_⟩
  next =>
    by_contra below
    have atMost : (n : Rat) <= (bound - 1 : Int) := by exact_mod_cast (by omega : n <= bound - 1)
    have rounded := nearest_le atMost (representable_intCast (abs_lt.mpr ⟨by omega, by omega⟩))
    push_cast at rounded
    linarith
  next =>
    exact le_nearest (Int.cast_le.mpr order)
      (representable_intCast (abs_lt.mpr ⟨by omega, by omega⟩))

theorem valueOf_eq_iff_of_ofInt? : valueOf x = bound ↔ n = bound := by
  obtain ⟨low, high⟩ := abs_lt.mp small
  have next : |bound + 1| <= 2 ^ 52 := abs_le.mpr ⟨by omega, by omega⟩
  rw [valueOf_of_ofInt? converted]
  refine ⟨fun same => ?_, fun same => ?_⟩
  next =>
    have atLeast : bound <= n := by
      rw [<- le_valueOf_iff_of_ofInt? converted small, valueOf_of_ofInt? converted, same]
    by_contra apart
    have above : ((bound + 1 : Int) : Rat) <= n := by exact_mod_cast (by omega : bound + 1 <= n)
    have rounded := le_nearest above (representable_intCast (next.trans_lt (by norm_num)))
    push_cast at rounded
    linarith
  next =>
    rw [same]
    exact nearest_of_representable (representable_intCast (small.trans (by norm_num)))

end Converted

end Integers

end SensorAlerting.Number
