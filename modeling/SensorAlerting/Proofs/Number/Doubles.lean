import SensorAlerting.Time.Span

set_option autoImplicit false

namespace SensorAlerting.Number

open Float.Model

theorem lt_iff_unpacked {x y : Float} :
    x < y ↔ x.toModel.unpack.lt y.toModel.unpack = true :=
  decide_eq_true_iff (p := x.toModel < y.toModel)

theorem le_iff_unpacked {x y : Float} :
    x <= y ↔ x.toModel.unpack.le y.toModel.unpack = true :=
  decide_eq_true_iff (p := x.toModel <= y.toModel)

theorem unpack_nought : (0 : Float).toModel.unpack = .zero .positive := rfl

theorem eq_of_toBits {x y : Float} (same : x.toBits = y.toBits) : x = y := by
  obtain ⟨⟨bits, _⟩⟩ := x
  obtain ⟨⟨others, _⟩⟩ := y
  obtain rfl : bits = others := same
  rfl

def isZero : UnpackedFloat -> Bool
  | .zero _ => true
  | _ => false

theorem eq_nought_of_unpack {x : Float} {sign : UnpackedFloat.Sign}
    (unpacked : x.toModel.unpack = .zero sign) : x = 0 ∨ x = -0 := by
  obtain ⟨⟨bits, valid⟩⟩ := x
  delta Float.Model.unpack UnpackedFloat.unpack at unpacked
  have zero := congrArg isZero unpacked
  dsimp only at zero
  -- Splitting after the cases are flags keeps the proofs that doubles carry out of the way.
  rw [apply_ite isZero, apply_ite isZero, apply_ite isZero, apply_dite isZero] at zero
  dsimp only [isZero] at zero
  split at zero
  next => split at zero <;> cases zero
  next =>
    split at zero
    next exponent =>
      split at zero
      next fraction =>
        simp only [UnpackedFloat.unpackExponent, UnpackedFloat.unpackMantissa, BitVec.cast_eq]
          at exponent fraction
        -- Only the bit of the sign is left.
        have bound := bits.toNat_lt
        have noExponent := congrArg BitVec.toNat exponent
        have noFraction := congrArg BitVec.toNat fraction
        simp only [BitVec.extractLsb_toNat, UInt64.toNat_toBitVec, Nat.shiftRight_eq_div_pow,
          BitVec.toNat_ofNat] at noExponent noFraction
        have signOnly : bits.toNat = 0 ∨ bits.toNat = 2 ^ 63 := by omega
        cases signOnly with
        | inl plain => exact .inl (eq_of_toBits (UInt64.toNat_inj.mp plain))
        | inr negative => exact .inr (eq_of_toBits (UInt64.toNat_inj.mp negative))
      next => cases zero
    next => cases zero

theorem eq_nought {x : Float} (atLeast : 0 <= x) (notAbove : ¬ 0 < x) : x = 0 ∨ x = -0 := by
  rw [le_iff_unpacked, unpack_nought] at atLeast
  rw [lt_iff_unpacked, unpack_nought] at notAbove
  cases unpacked : x.toModel.unpack with
  | zero sign => exact eq_nought_of_unpack unpacked
  | notANumber =>
    rw [unpacked] at atLeast
    cases atLeast
  | infinity sign =>
    rw [unpacked] at atLeast notAbove
    cases sign with
    | positive => exact absurd rfl notAbove
    | negative => cases atLeast
  | finite sign mantissa exponent positive =>
    rw [unpacked] at atLeast notAbove
    cases sign with
    | positive => exact absurd rfl notAbove
    | negative => cases atLeast

theorem not_lt_nought {x : Float} (atLeast : 0 <= x) : ¬ x < 0 := by
  intro below
  rw [le_iff_unpacked, unpack_nought] at atLeast
  rw [lt_iff_unpacked, unpack_nought] at below
  cases unpacked : x.toModel.unpack with
  | zero sign =>
    rw [unpacked] at below
    cases below
  | notANumber =>
    rw [unpacked] at below
    cases below
  | infinity sign =>
    rw [unpacked] at atLeast below
    cases sign with
    | positive => cases below
    | negative => cases atLeast
  | finite sign mantissa exponent positive =>
    rw [unpacked] at atLeast below
    cases sign with
    | positive => cases below
    | negative => cases atLeast

theorem undefined_bits {x : Float} (undefined : isUndefined x = true) :
    x.toBits.toNat / Nat.pow 2 52 % Nat.pow 2 11 = 2047 ∧ x.toBits.toNat % Nat.pow 2 52 ≠ 0 := by
  unfold isUndefined at undefined
  split at undefined
  next read =>
    simp only [parts, beq_iff_eq] at read
    split at read
    next full =>
      split at read
      next => cases read
      next some => exact ⟨full, some⟩
    next => split at read <;> cases read
  next => cases undefined

theorem undefined_fields {x : Float} (undefined : isUndefined x = true) :
    @UnpackedFloat.unpackExponent .binary64 x.toModel.toBits.toBitVec = -1#11 ∧
      @UnpackedFloat.unpackMantissa .binary64 x.toModel.toBits.toBitVec ≠ 0#52 := by
  obtain ⟨field, fraction⟩ := undefined_bits undefined
  change x.toModel.toBits.toNat / 2 ^ 52 % 2 ^ 11 = 2047 at field
  change x.toModel.toBits.toNat % 2 ^ 52 ≠ 0 at fraction
  constructor
  next =>
    apply BitVec.eq_of_toNat_eq
    simpa [UnpackedFloat.unpackExponent, Nat.shiftRight_eq_div_pow] using field
  next =>
    intro same
    refine fraction ?_
    simpa [UnpackedFloat.unpackMantissa, Nat.shiftRight_eq_div_pow] using
      congrArg BitVec.toNat same

theorem unpack_undefined {x : Float} (undefined : isUndefined x = true) :
    x.toModel.unpack = .notANumber := by
  obtain ⟨exponent, mantissa⟩ := undefined_fields undefined
  delta Float.Model.unpack UnpackedFloat.unpack
  dsimp only
  rw [if_pos exponent, if_neg mantissa]

theorem eq_undefinedFloat {x : Float} (undefined : isUndefined x = true) : x = undefinedFloat := by
  obtain ⟨exponent, mantissa⟩ := undefined_fields undefined
  exact eq_of_toBits (UInt64.eq_of_toBitVec_eq (x.toModel.valid.eq_packedNaN exponent mantissa))

theorem not_isUndefined_of_le {x bound : Float} (atLeast : bound <= x) :
    isUndefined x = false := by
  cases undefined : isUndefined x with
  | false => rfl
  | true =>
    rw [le_iff_unpacked, unpack_undefined undefined] at atLeast
    cases unpacked : bound.toModel.unpack <;> rw [unpacked] at atLeast <;> cases atLeast

end SensorAlerting.Number

namespace SensorAlerting.Time

open SensorAlerting.Number

theorem spanOf_nought {x : Float} (atLeast : 0 <= x) (notAbove : ¬ 0 < x) {span : Int}
    (spanned : spanOf minute (.real x) = .ok span) : span = 0 := by
  have empty : (spanOf minute (.real x)).toOption = some 0 := by
    cases eq_nought atLeast notAbove with
    | inl plain => subst plain; decide +kernel
    | inr negative => subst negative; decide +kernel
  simpa [spanned, Except.toOption] using empty

end SensorAlerting.Time
