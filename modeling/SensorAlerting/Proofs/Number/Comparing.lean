import SensorAlerting.Number.Quantity
import SensorAlerting.Proofs.Number.Order
import SensorAlerting.Proofs.Number.Quotients

set_option autoImplicit false

/-!
How whole numbers and doubles compare. A comparison with a double is exact, and with the undefined
one it does not hold, in whichever direction it is made.
-/

namespace SensorAlerting.Number

/-- A double is not below a rational: a finite one that is at least that, or positive infinity. -/
def Reaches (bound : Rat) (x : Float) : Prop :=
  isFinite x = true ∧ bound <= valueOf x ∨ parts x = .infinite false

theorem not_reaches_of_undefined {bound : Rat} {x : Float} (undefined : isUndefined x = true) :
    ¬ Reaches bound x := by
  rintro (⟨finite, -⟩ | infinite)
  next => cases read : parts x <;> simp [isFinite, isUndefined, read] at finite undefined
  next => simp [isUndefined, infinite] at undefined

theorem Reaches.mono {lower bound : Rat} {x : Float} (reaches : Reaches bound x)
    (order : lower <= bound) : Reaches lower x :=
  reaches.imp (fun finite => ⟨finite.1, order.trans finite.2⟩) id

theorem reaches_ofInt?_iff {n bound : Int} {x : Float} (converted : ofInt? n = some x)
    (small : |bound| < 2 ^ 52) : Reaches bound x ↔ bound <= n := by
  have finite := isFinite_of_ofInt? converted
  rw [<- le_valueOf_iff_of_ofInt? converted small, Reaches, and_iff_right finite]
  refine or_iff_left fun infinite => ?_
  simp [isFinite, infinite] at finite

namespace Quantity

open isBelow

theorem compare_sides {a b : Int} {scale : Nat} (pos : 0 < scale) :
    Ord.compare (a * scale) b = Ord.compare (a : Rat) (b / scale : Rat) := by
  have units : (0 : Rat) < scale := Nat.cast_pos.mpr pos
  rcases lt_trichotomy (a * scale) b with below | same | above
  next =>
    have exact : (a : Rat) * scale < b := by exact_mod_cast below
    rw [compare_lt_iff_lt.mpr below, compare_lt_iff_lt.mpr ((lt_div_iff₀ units).mpr exact)]
  next =>
    have exact : (a : Rat) * scale = b := by exact_mod_cast same
    rw [compare_eq_iff_eq.mpr same, compare_eq_iff_eq.mpr ((eq_div_iff units.ne').mpr exact)]
  next =>
    have exact : (b : Rat) < a * scale := by exact_mod_cast above
    rw [compare_gt_iff_gt.mpr above, compare_gt_iff_gt.mpr ((div_lt_iff₀ units).mpr exact)]

theorem compareWhole_finite (a : Int) {x : Float} (finite : isFinite x = true) :
    compareWhole a x = some (Ord.compare (a : Rat) (valueOf x)) := by
  cases read : parts x with
  | undefined => simp [isFinite, read] at finite
  | infinite negative => simp [isFinite, read] at finite
  | finite negative mantissa exponent =>
    have pos : 0 < Nat.pow 2 (-exponent).toNat := Nat.pow_pos (by norm_num)
    have scaled : (2 : Rat) ^ exponent = 2 ^ exponent.toNat / 2 ^ (-exponent).toNat :=
      eq_div_of_mul_eq (by positivity) (power_mul_toNat exponent)
    simp only [compareWhole, read, valueOf, magnitude]
    rw [compare_sides pos]
    congr 2
    rw [scaled]
    cases negative with
    | false =>
      simp only [Bool.false_eq_true, if_false]
      push_cast [Nat.pow_eq]
      ring
    | true =>
      simp only [if_true]
      push_cast [Nat.pow_eq]
      ring

theorem isAtMost_whole_iff {bound : Int} {x : Float} :
    isAtMost (.whole bound) (.real x) = true ↔ Reaches bound x := by
  cases read : parts x with
  | undefined =>
    have undefined : isUndefined x = true := by simp [isUndefined, read]
    refine iff_of_false ?_ (not_reaches_of_undefined undefined)
    simp [isAtMost, compareWhole, read]
  | infinite negative => cases negative <;> simp [isAtMost, compareWhole, read, Reaches, isFinite]
  | finite negative mantissa exponent =>
    have finite : isFinite x = true := by simp [isFinite, read]
    have order := compare_le_iff_le (a := (bound : Rat)) (b := valueOf x)
    simp [isAtMost, compareWhole_finite bound finite, Reaches, finite, read, <- order]

theorem isBelow_whole_iff {bound : Int} {x : Float} :
    isBelow (.real x) (.whole bound) = false ↔ Reaches bound x ∨ isUndefined x = true := by
  cases read : parts x with
  | undefined => simp [isBelow, compareWhole, read, isUndefined]
  | infinite negative =>
    cases negative <;> simp [isBelow, compareWhole, read, Reaches, isFinite, isUndefined]
  | finite negative mantissa exponent =>
    have finite : isFinite x = true := by simp [isFinite, read]
    have order := compare_le_iff_le (a := (bound : Rat)) (b := valueOf x)
    simp [isBelow, compareWhole_finite bound finite, Reaches, finite, read, isUndefined, <- order]

end Quantity

end SensorAlerting.Number
