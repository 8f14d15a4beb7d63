import Mathlib.Algebra.Group.Nat.Defs
import SensorAlerting.Proofs.Number.Doubles

set_option autoImplicit false

namespace SensorAlerting.Number

theorem parts_finite {x : Float} {negative : Bool} {mantissa : Nat} {exponent : Int}
    (read : parts x = .finite negative mantissa exponent) :
    mantissa < 2 ^ 53 ∧ (exponent = -1074 ∨
      ∃ field : Nat, exponent = (field : Int) - 1075 ∧ 2 ^ 52 <= mantissa ∧
        x.toBits.toNat =
          (if negative then 2 ^ 63 else 0) + field * 2 ^ 52 + (mantissa - 2 ^ 52)) := by
  have bound := x.toBits.toNat_lt
  simp only [parts, beq_iff_eq, Nat.pow_eq] at read
  split at read
  next => split at read <;> cases read
  next =>
    split at read
    next =>
      cases read
      omega
    next =>
      cases read
      refine ⟨by omega, .inr ⟨_, rfl, by omega, ?_⟩⟩
      split <;> simp_all <;> omega

/-- A double this large has a whole number of eights, and says all of its bits. -/
structure LargeBits (x : Float) (whole : Int) : Prop where
  eights : 8 ∣ whole.natAbs
  bits : whole.natAbs < 2 ^ 56 -> x.toBits.toNat =
    (if whole < 0 then 2 ^ 63 else 0) + 1078 * 2 ^ 52 + (whole.natAbs / 8 - 2 ^ 52)

theorem largeBits_of_truncate? {x : Float} {whole : Int} (truncated : truncate? x = some whole)
    (large : 2 ^ 55 <= whole.natAbs) : LargeBits x whole := by
  simp only [truncate?] at truncated
  split at truncated
  next negative mantissa exponent read =>
    obtain ⟨small, range⟩ := parts_finite read
    generalize quotient : (magnitude mantissa exponent).1 / (magnitude mantissa exponent).2 = size
      at truncated
    have signed : (if negative then -(size : Int) else size) = whole := Option.some.inj truncated
    have sized : whole.natAbs = size := by
      rw [<- signed]
      cases negative <;> simp
    simp only [magnitude, Nat.pow_eq] at quotient
    have high : 3 <= exponent := by
      by_cases low : exponent.toNat <= 2
      next =>
        have scale : 2 ^ exponent.toNat <= 2 ^ 2 := Nat.pow_le_pow_right (by omega) low
        have product : mantissa * 2 ^ exponent.toNat <= mantissa * 2 ^ 2 :=
          Nat.mul_le_mul_left mantissa scale
        have below := Nat.div_le_self (mantissa * 2 ^ exponent.toNat) (2 ^ (-exponent).toNat)
        omega
      next => omega
    obtain ⟨more, grown⟩ : ∃ more, exponent.toNat = 3 + more := ⟨exponent.toNat - 3, by omega⟩
    have noFraction : (-exponent).toNat = 0 := by omega
    rw [noFraction, grown, Nat.pow_zero, Nat.div_one, Nat.pow_add] at quotient
    refine ⟨?_, fun within => ?_⟩
    next =>
      rw [sized, <- quotient]
      exact ⟨mantissa * 2 ^ more, Nat.mul_left_comm _ _ _⟩
    next =>
      obtain tiny | ⟨field, offset, full, bits⟩ := range
      next => omega
      next =>
        -- Twice as much would be out of bounds, so that the exponent is three.
        have single : more = 0 := by
          by_cases another : 1 <= more
          next =>
            have scale : 2 ^ 1 <= 2 ^ more := Nat.pow_le_pow_right (by omega) another
            have product : 2 ^ 52 * (2 ^ 3 * 2 ^ 1) <= mantissa * (2 ^ 3 * 2 ^ more) :=
              Nat.mul_le_mul full (Nat.mul_le_mul_left _ scale)
            omega
          next => omega
        rw [single] at quotient grown
        have scaled : whole.natAbs = mantissa * 8 := by rw [sized, <- quotient]
        have exact : field = 1078 := by omega
        cases negative with
        | false =>
          have above : ¬ whole < 0 := by simp only [Bool.false_eq_true, if_false] at signed; omega
          rw [bits, if_neg above, if_neg (by decide)]
          omega
        | true =>
          have below : whole < 0 := by simp only [if_true] at signed; omega
          rw [bits, if_pos below, if_pos rfl]
          omega
  next => cases truncated

end SensorAlerting.Number
