import SensorAlerting.Proofs.Number.Quotients
import SensorAlerting.Proofs.Number.Roots

set_option autoImplicit false

namespace SensorAlerting.Number

open Float.Model UnpackedFloat

structure Stands (x : Float) (q : Rat) : Prop where
  finite : isFinite x = true
  value : valueOf x = q

theorem IsNearest.stands {x : Float} {q r : Rat} (isNearest : IsNearest x q)
    (rounded : nearest q = r) (below : |r| < 2 ^ (1024 : Int)) : Stands x r := by
  rw [<- rounded, abs_nearest_lt_iff] at below
  obtain ⟨-, finite, -, value⟩ | ⟨large, -⟩ := isNearest.cases
  next => exact ⟨finite, value.trans rounded⟩
  next => exact absurd below (not_lt.mpr large)

section Stands

variable {x y : Float} {a b c : Rat}

theorem stands_zero : Stands 0 0 := ⟨by decide +kernel, valueOf_zero⟩

theorem stands_count {count : Nat} (few : count < 2 ^ 53) :
    Stands ((ofInt? count).getD 0) count := by
  have small : |(count : Int)| < 2 ^ 53 := by
    rw [Nat.abs_cast]
    omega
  obtain ⟨counted, converted, finite, value⟩ :=
    ofInt?_exact (fits_of_small small) (representable_intCast small)
  rw [converted]
  exact ⟨finite, value.trans (Int.cast_natCast count)⟩

theorem Stands.add (left : Stands x a) (right : Stands y b) (rounded : nearest (a + b) = c)
    (below : |c| < 2 ^ (1024 : Int)) : Stands (x + y) c := by
  have sum := isNearest_add left.finite right.finite
  rw [left.value, right.value] at sum
  exact sum.stands rounded below

theorem Stands.sub (left : Stands x a) (right : Stands y b) (rounded : nearest (a - b) = c)
    (below : |c| < 2 ^ (1024 : Int)) : Stands (x - y) c := by
  have difference := isNearest_sub left.finite right.finite
  rw [left.value, right.value] at difference
  exact difference.stands rounded below

theorem Stands.mul (left : Stands x a) (right : Stands y b) (rounded : nearest (a * b) = c)
    (below : |c| < 2 ^ (1024 : Int)) : Stands (x * y) c := by
  have product := isNearest_mul left.finite right.finite
  rw [left.value, right.value] at product
  exact product.stands rounded below

theorem Stands.div (left : Stands x a) (right : Stands y b) (some : b ≠ 0)
    (rounded : nearest (a / b) = c) (below : |c| < 2 ^ (1024 : Int)) : Stands (x / y) c := by
  have quotient := isNearest_div left.finite right.finite (by rwa [right.value])
  rw [left.value, right.value] at quotient
  exact quotient.stands rounded below

theorem Stands.sqrt (square : Stands x (a * a)) (nonneg : 0 <= a) (representable : Representable a)
    (below : |a| < 2 ^ (1024 : Int)) : Stands x.sqrt a :=
  (isNearest_sqrt square.finite nonneg square.value).stands
    (nearest_of_representable representable) below

end Stands

section Multiples

variable {x y : Float} {a b : Int} {place : Int}

theorem representable_scaled (few : |a| < 2 ^ 53) (least : -1074 <= place) :
    Representable (a * 2 ^ place) := ⟨a, place, few, least, rfl⟩

theorem abs_scaled_lt (few : |a| < 2 ^ 60) (early : place <= 900) :
    |(a : Rat) * 2 ^ place| < 2 ^ (1024 : Int) := by
  have unit := power_pos place
  have short : (|a| : Rat) < 2 ^ (60 : Int) := by exact_mod_cast few
  rw [abs_mul, abs_of_pos unit]
  calc (|a| : Rat) * 2 ^ place < 2 ^ (60 : Int) * 2 ^ place := mul_lt_mul_of_pos_right short unit
    _ = 2 ^ (60 + place) := (power_add 60 place).symm
    _ <= 2 ^ (1024 : Int) := power_mono (by omega)

theorem Stands.addScaled (left : Stands x (a * 2 ^ place)) (right : Stands y (b * 2 ^ place))
    (few : |a + b| < 2 ^ 53) (least : -1074 <= place) (early : place <= 900) :
    Stands (x + y) ((a + b : Int) * 2 ^ place) := by
  refine left.add right ?_ (abs_scaled_lt (few.trans (by norm_num)) early)
  rw [<- add_mul, <- Int.cast_add]
  exact nearest_of_representable (representable_scaled few least)

theorem Stands.subScaled (left : Stands x (a * 2 ^ place)) (right : Stands y (b * 2 ^ place))
    (few : |a - b| < 2 ^ 53) (least : -1074 <= place) (early : place <= 900) :
    Stands (x - y) ((a - b : Int) * 2 ^ place) := by
  refine left.sub right ?_ (abs_scaled_lt (few.trans (by norm_num)) early)
  rw [<- sub_mul, <- Int.cast_sub]
  exact nearest_of_representable (representable_scaled few least)

/-- A count of up to 54 bits is rounded to an even one beside it at most. -/
theorem nearest_between (few : |a| < 2 ^ 54 - 1) (least : -1074 <= place) :
    (a - 1 : Int) * 2 ^ place <= nearest (a * 2 ^ place) ∧
      nearest (a * 2 ^ place) <= (a + 1 : Int) * 2 ^ place := by
  have unit := power_pos place
  obtain ⟨low, high⟩ := abs_lt.mp few
  have even : ∀ half : Int, |half| < 2 ^ 53 -> Representable ((2 * half : Int) * 2 ^ place) := by
    intro half short
    have shifted : ((2 * half : Int) : Rat) * 2 ^ place = half * 2 ^ (place + 1) := by
      rw [power_add]
      push_cast
      ring
    rw [shifted]
    exact representable_scaled short (by omega)
  obtain ⟨half, rfl | rfl⟩ := a.even_or_odd'
  next =>
    rw [nearest_of_representable (even half (abs_lt.mpr ⟨by omega, by omega⟩))]
    constructor <;> refine mul_le_mul_of_nonneg_right ?_ unit.le <;> push_cast <;> linarith
  next =>
    have below := even half (abs_lt.mpr ⟨by omega, by omega⟩)
    have above := even (half + 1) (abs_lt.mpr ⟨by omega, by omega⟩)
    constructor
    next =>
      rw [add_sub_cancel_right]
      refine le_nearest (mul_le_mul_of_nonneg_right ?_ unit.le) below
      push_cast
      linarith
    next =>
      rw [show 2 * half + 1 + 1 = 2 * (half + 1) by ring]
      refine nearest_le (mul_le_mul_of_nonneg_right ?_ unit.le) above
      push_cast
      linarith

theorem IsNearest.standsNear (isNearest : IsNearest x (a * 2 ^ place)) (few : |a| < 2 ^ 54 - 1)
    (least : -1074 <= place) (early : place <= 900) : ∃ c, Stands x c ∧
      (a - 1 : Int) * 2 ^ place <= c ∧ c <= (a + 1 : Int) * 2 ^ place := by
  obtain ⟨low, high⟩ := nearest_between few least
  obtain ⟨above, below⟩ := abs_lt.mp few
  have fewest : |a - 1| < 2 ^ 60 := abs_lt.mpr ⟨by omega, by omega⟩
  have most : |a + 1| < 2 ^ 60 := abs_lt.mpr ⟨by omega, by omega⟩
  refine ⟨nearest (a * 2 ^ place), isNearest.stands rfl (abs_lt.mpr ⟨?_, ?_⟩), low, high⟩
  next => exact (abs_lt.mp (abs_scaled_lt fewest early)).1.trans_le low
  next => exact high.trans_lt (abs_lt.mp (abs_scaled_lt most early)).2

end Multiples

theorem abs_unpacked (sign : Sign) (mantissa : Nat) (exponent : Int) :
    (unpacked sign mantissa exponent).abs = unpacked .positive mantissa exponent := by
  rw [unpacked, unpacked]
  by_cases nought : mantissa = 0
  next => rw [dif_pos nought, dif_pos nought]; rfl
  next => rw [dif_neg nought, dif_neg nought]; rfl

theorem stands_abs {x : Float} (finite : isFinite x = true) : Stands x.abs |valueOf x| := by
  obtain ⟨sign, mantissa, exponent, form⟩ := exists_form finite
  have size := form.abs_value
  have same : nearest |valueOf x| = |valueOf x| := by
    rw [size, nearest_of_representable form.normal.representable]
  have isNearest : IsNearest x.abs |valueOf x| := by
    refine isNearest_of_rounded
      ⟨.positive, mantissa, exponent, form.normal, size.symm.trans same.symm, rfl⟩ ?_
    rw [<- abs_unpacked sign, <- form.unpack]
    rfl
  refine isNearest.stands same ?_
  rw [abs_abs, size]
  exact form.normal.value_lt.mpr form.inRange

theorem withSign_eq_apply (sign : Sign) (count : Nat) (unit : Rat) :
    withSign sign (count * unit) = sign.apply count * unit := by
  cases sign <;> simp [withSign, isNegative, Sign.apply]

theorem abs_apply_sub (sign : Sign) (a b : Int) : |sign.apply a - sign.apply b| = |a - b| := by
  cases sign with
  | positive => rfl
  | negative =>
    change |-a - -b| = |a - b|
    rw [neg_sub_neg, abs_sub_comm]

theorem abs_apply (sign : Sign) (a : Int) : |sign.apply a| = |a| := by
  cases sign with
  | positive => rfl
  | negative => exact abs_neg a

theorem withSign_add (sign : Sign) (a b : Rat) :
    withSign sign a + withSign sign b = withSign sign (a + b) := by
  cases sign with
  | positive => rfl
  | negative => exact (neg_add a b).symm

end SensorAlerting.Number
