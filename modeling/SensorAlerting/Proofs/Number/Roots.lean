import SensorAlerting.Proofs.Number.Arithmetic

set_option autoImplicit false

namespace SensorAlerting.Number

open Float.Model UnpackedFloat

theorem sqrt_of_square {n : Nat} {root : Rat} (nonneg : 0 <= root) (square : (n : Rat) = root * root) :
    n = n.sqrt * n.sqrt ∧ root = n.sqrt := by
  obtain ⟨whole, rfl⟩ : IsSquare n := Rat.isSquare_natCast_iff.mp ⟨root, square⟩
  rw [Nat.sqrt_eq]
  refine ⟨rfl, ?_⟩
  rw [Nat.cast_mul, mul_self_eq_mul_self_iff] at square
  obtain same | opposite := square
  next => exact same.symm
  next =>
    have nought : (0 : Rat) <= whole := Nat.cast_nonneg whole
    linarith

def rootPlace (m : Nat) (e : Int) : Int :=
  min (e / 2) (max (((m.log2 : Int) + e + 2) / 2 - 53) (-1074))

theorem sqrtCore_of_square {m : Nat} {e : Int} {root : Nat}
    (square : m * 2 ^ (e - 2 * rootPlace m e).toNat = root * root) :
    sqrtCore .binary64 m e = (root, rootPlace m e, .exact) := by
  have place : min (e.ediv 2) (Format.binary64.targetExponent ((totalExponent m e + 1).ediv 2)) =
      rootPlace m e := by
    rw [targetExponent_eq, totalExponent, rootPlace]
    change min (e / 2) (max (((m.log2 : Int) + 1 + e + 1) / 2 - 53) (-1074)) = _
    omega
  rw [sqrtCore, place]
  simp only [Nat.shiftLeft_eq, square, Nat.sqrt_eq, Nat.sub_self, if_true]

theorem rootPlace_full {m : Nat} {e : Int} {root : Rat} (some : m ≠ 0) (nonneg : 0 <= root)
    (square : (m : Rat) * 2 ^ e = root * root) :
    (2 : Rat) ^ (rootPlace m e + 52) <= root ∨ rootPlace m e <= -1074 := by
  rcases le_or_gt (rootPlace m e) (-1074) with small | large
  next => exact .inr small
  next =>
    have place : 2 * (rootPlace m e + 52) <= m.log2 + e := by
      unfold rootPlace at large ⊢
      omega
    refine .inl ((mul_self_le_mul_self_iff (power_pos _).le nonneg).mpr ?_)
    calc (2 : Rat) ^ (rootPlace m e + 52) * 2 ^ (rootPlace m e + 52)
      _ = 2 ^ (2 * (rootPlace m e + 52)) := by rw [<- power_add, two_mul]
      _ <= 2 ^ ((m.log2 : Int) + e) := power_mono place
      _ = 2 ^ (m.log2 : Int) * 2 ^ e := power_add _ _
      _ <= m * 2 ^ e := mul_le_mul_of_nonneg_right (power_log2_le some) (power_pos e).le
      _ = root * root := square

theorem rounded_sqrt {m : Nat} {e : Int} {root : Rat} (some : m ≠ 0) (nonneg : 0 <= root)
    (square : (m : Rat) * 2 ^ e = root * root) :
    Rounded (.sqrt .binary64 (unpacked .positive m e)) root := by
  have within : 2 * rootPlace m e <= e := by
    unfold rootPlace
    omega
  obtain ⟨count, counted⟩ : ∃ count : Nat, e - 2 * rootPlace m e = count :=
    ⟨(e - 2 * rootPlace m e).toNat, by omega⟩
  have unit := power_pos (rootPlace m e)
  -- At twice the place of the root the mantissa is an integer, whose root is looked for.
  have scaled : ((m * 2 ^ count : Nat) : Rat) =
      root / 2 ^ rootPlace m e * (root / 2 ^ rootPlace m e) := by
    have units : (2 : Rat) ^ e = 2 ^ count * (2 ^ rootPlace m e * 2 ^ rootPlace m e) := by
      rw [<- power_add, <- zpow_natCast, <- power_add]
      congr 1
      omega
    rw [div_mul_div_comm, <- square, eq_div_iff (mul_pos unit unit).ne', units]
    push_cast
    ring
  obtain ⟨whole, exact⟩ := sqrt_of_square (div_nonneg nonneg unit.le) scaled
  have core := sqrtCore_of_square (m := m) (e := e) (by rw [counted, Int.toNat_natCast]; exact whole)
  have rooted : UnpackedFloat.sqrt .binary64 (unpacked .positive m e) =
      roundWithAccuracy .binary64 .positive (m * 2 ^ count).sqrt (rootPlace m e) .exact := by
    rw [unpacked_pos some]
    change (match sqrtCore .binary64 m e with
      | (m, e, accuracy) => roundWithAccuracy .binary64 .positive m e accuracy) = _
    rw [core]
  rw [rooted]
  refine rounded_roundWithAccuracy .positive nonneg (describes_exact exact) (early_of_full ?_)
  rw [abs_of_nonneg nonneg]
  exact rootPlace_full some nonneg square

/-- The root of a double that is a square is the double nearest to the exact root. -/
theorem isNearest_sqrt {x : Float} {root : Rat} (finite : isFinite x = true) (nonneg : 0 <= root)
    (square : valueOf x = root * root) : IsNearest x.sqrt root := by
  obtain ⟨sign, m, e, form⟩ := exists_form finite
  rw [form.value] at square
  have outcome : Rounded (.sqrt .binary64 (unpacked sign m e)) root := by
    by_cases nought : m = 0
    next =>
      subst nought
      have none : root = 0 := by
        rw [Nat.cast_zero, zero_mul, withSign_zero] at square
        exact mul_self_eq_zero.mp square.symm
      rw [none, unpacked_zero]
      exact rounded_zero sign
    next =>
      cases sign with
      | positive => exact rounded_sqrt nought nonneg square
      | negative =>
        have size : (0 : Rat) < m * 2 ^ e :=
          mul_pos (Nat.cast_pos.mpr (Nat.pos_of_ne_zero nought)) (power_pos e)
        have opposite : -((m : Rat) * 2 ^ e) = root * root := square
        have atLeast := mul_self_nonneg root
        linarith
  refine isNearest_of_rounded outcome ?_
  rw [<- form.unpack]
  rfl

end SensorAlerting.Number
