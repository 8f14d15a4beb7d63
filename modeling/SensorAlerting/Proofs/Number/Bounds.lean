import SensorAlerting.Proofs.Number.Arithmetic
import SensorAlerting.Proofs.Number.Quotients

set_option autoImplicit false

/-!
Doubles of bounded size. Arithmetic on them stays finite within bounds that are doubles themselves.
A square is finite as long as its root is below `2 ^ 512`.
-/

namespace SensorAlerting.Number

theorem Representable.abs_le_of_lt_power {q : Rat} {place : Int} (representable : Representable q)
    (below : |q| < 2 ^ (place + 53)) : |q| <= (2 ^ 53 - 1) * 2 ^ place := by
  obtain ⟨mantissa, exponent, fits, -, rfl⟩ := representable
  rw [abs_mul, abs_of_pos (power_pos exponent)] at below ⊢
  rcases le_total exponent place with early | late
  next =>
    have few : (|mantissa| : Rat) <= 2 ^ 53 - 1 := by
      have := Int.le_sub_one_of_lt fits
      exact_mod_cast this
    exact mul_le_mul few (power_mono early) (power_pos exponent).le (by norm_num)
  next =>
    -- A late last place leaves zeros behind, so that the bits can be counted from an earlier one.
    obtain ⟨count, rfl⟩ : ∃ count : Nat, exponent = place + count :=
      ⟨(exponent - place).toNat, by omega⟩
    rw [power_add, mul_comm ((2 : Rat) ^ place), <- mul_assoc, zpow_natCast] at below ⊢
    rw [power_add, mul_comm ((2 : Rat) ^ place)] at below
    have short := lt_of_mul_lt_mul_right below (power_pos place).le
    have few : |mantissa| * 2 ^ count <= 2 ^ 53 - 1 := by
      refine Int.le_sub_one_of_lt ?_
      exact_mod_cast short
    refine mul_le_mul_of_nonneg_right ?_ (power_pos place).le
    exact_mod_cast few

theorem limit_le_mul_self_iff {q : Rat} (representable : Representable q) :
    limit <= q * q ↔ 2 ^ (512 : Int) <= |q| := by
  rw [<- abs_mul_abs_self]
  constructor
  next =>
    contrapose!
    intro below
    rw [show (512 : Int) = 459 + 53 by norm_num] at below
    have most := representable.abs_le_of_lt_power below
    calc |q| * |q| <= (2 ^ 53 - 1) * 2 ^ (459 : Int) * ((2 ^ 53 - 1) * 2 ^ (459 : Int)) :=
          mul_le_mul most most (abs_nonneg q) (mul_nonneg (by norm_num) (power_pos 459).le)
      _ = (2 ^ 53 - 1) * (2 ^ 53 - 1) * 2 ^ (918 : Int) := by
          rw [show (918 : Int) = 459 + 459 by norm_num, power_add]
          ring
      _ < (2 ^ (54 : Int) - 1) * 2 ^ (52 : Int) * 2 ^ (918 : Int) :=
          mul_lt_mul_of_pos_right (by norm_num) (power_pos 918)
      _ = limit := by
          rw [limit_eq, show (970 : Int) = 52 + 918 by norm_num, power_add, mul_assoc]
  next =>
    intro large
    have squares := mul_le_mul large large (power_pos 512).le (abs_nonneg q)
    rw [<- power_add] at squares
    exact (sub_le_self _ (power_pos 970).le).trans squares

/-- A square is too large just where its root is not below `2 ^ 512`. -/
theorem isInfinite_mul_self_iff {x : Float} (finite : isFinite x = true) :
    isInfinite (x * x) = true ↔ 2 ^ (512 : Int) <= |valueOf x| := by
  rw [<- limit_le_mul_self_iff (representable_valueOf finite)]
  rcases (isNearest_mul finite finite).cases with ⟨below, -, bounded, -⟩ | ⟨large, -, infinite⟩
  next => simpa [bounded] using below
  next => simpa [infinite] using large

def IsWithin (bound : Rat) (x : Float) : Prop := isFinite x = true ∧ |valueOf x| <= bound

section Within

variable {x y : Float} {bound other : Rat}

theorem isWithin_zero (nonneg : 0 <= bound) : IsWithin bound 0 :=
  ⟨by decide +kernel, by rwa [valueOf_zero, abs_zero]⟩

theorem IsNearest.isWithin {q : Rat} (isNearest : IsNearest x q) (order : |q| <= bound)
    (representable : Representable bound) (below : bound < limit) : IsWithin bound x := by
  rcases isNearest.cases with ⟨-, finite, -, value⟩ | ⟨large, -⟩
  next =>
    refine ⟨finite, ?_⟩
    rw [value]
    exact abs_nearest_le order representable
  next => exact absurd (order.trans_lt below) (not_lt.mpr large)

theorem IsWithin.add (left : IsWithin bound x) (right : IsWithin other y)
    (representable : Representable (bound + other)) (below : bound + other < limit) :
    IsWithin (bound + other) (x + y) :=
  (isNearest_add left.1 right.1).isWithin
    ((abs_add_le _ _).trans (add_le_add left.2 right.2)) representable below

theorem IsWithin.sub (left : IsWithin bound x) (right : IsWithin other y)
    (representable : Representable (bound + other)) (below : bound + other < limit) :
    IsWithin (bound + other) (x - y) :=
  (isNearest_sub left.1 right.1).isWithin
    ((abs_sub _ _).trans (add_le_add left.2 right.2)) representable below

end Within

end SensorAlerting.Number
