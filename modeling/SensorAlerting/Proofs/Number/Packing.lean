import Mathlib.Tactic.Linarith
import SensorAlerting.Proofs.Number.Doubles

set_option autoImplicit false

namespace SensorAlerting.Number

open Float.Model UnpackedFloat

/-- A mantissa of 53 bits and its exponent, or fewer bits at the smallest exponent. -/
structure Normal (mantissa : Nat) (exponent : Int) : Prop where
  fits : mantissa < 2 ^ 53
  least : -1074 <= exponent
  full : 2 ^ 52 <= mantissa ∨ exponent = -1074

def isNegative : Sign -> Bool
  | .negative => true
  | .positive => false

def signBits (sign : Sign) : Nat := if isNegative sign then Nat.pow 2 63 else 0

theorem signBits_le (sign : Sign) : signBits sign <= 2 ^ 63 := by
  cases sign <;> decide

/-- The bits of a mantissa and an exponent; an exponent that is too large gives an infinity. -/
def sizeBits (mantissa : Nat) (exponent : Int) : Nat :=
  min ((exponent + 1074).toNat * Nat.pow 2 52 + mantissa) infinityBits

theorem sizeBits_carry {exponent : Int} (least : -1074 <= exponent) :
    sizeBits (2 ^ 53) exponent = sizeBits (2 ^ 52) (exponent + 1) := by
  have next : (exponent + 1 + 1074).toNat = (exponent + 1074).toNat + 1 := by omega
  rw [sizeBits, sizeBits, next]
  simp only [Nat.pow_eq]
  omega

theorem toNat_packComponents (sign : Sign) (exponent : BitVec 11) (mantissa : BitVec 52) :
    (packComponents .binary64 sign exponent mantissa).toNat =
      signBits sign + exponent.toNat * 2 ^ 52 + mantissa.toNat := by
  change (sign.toBitVec ++ exponent ++ mantissa).toNat = _
  rw [BitVec.toNat_append, BitVec.toNat_append, <- Nat.shiftLeft_add_eq_or_of_lt exponent.isLt,
    <- Nat.shiftLeft_add_eq_or_of_lt mantissa.isLt, Nat.shiftLeft_eq, Nat.shiftLeft_eq]
  cases sign with
  | positive => simp [signBits, isNegative, Sign.toBitVec]
  | negative =>
    simp [signBits, isNegative, Sign.toBitVec]
    omega

def unpacked (sign : Sign) (mantissa : Nat) (exponent : Int) : UnpackedFloat :=
  if nought : mantissa = 0 then .zero sign
  else .finite sign mantissa exponent (Nat.pos_of_ne_zero nought)

theorem unpacked_cases (sign : Sign) (mantissa : Nat) (exponent : Int) :
    unpacked sign mantissa exponent = .zero sign ∨
      ∃ some, unpacked sign mantissa exponent = .finite sign mantissa exponent some := by
  by_cases nought : mantissa = 0
  next => exact .inl (dif_pos nought)
  next => exact .inr ⟨_, dif_neg nought⟩

theorem toNat_pack_infinity (sign : Sign) :
    (UnpackedFloat.pack .binary64 (.infinity sign)).toNat = signBits sign + infinityBits := by
  change (packComponents .binary64 sign _ _).toNat = _
  rw [toNat_packComponents]
  rfl

theorem toNat_pack {sign : Sign} {mantissa : Nat} {exponent : Int}
    (normal : Normal mantissa exponent) :
    (UnpackedFloat.pack .binary64 (unpacked sign mantissa exponent)).toNat =
      signBits sign + sizeBits mantissa exponent := by
  obtain ⟨fits, least, full⟩ := normal
  rw [unpacked]
  by_cases nought : mantissa = 0
  next =>
    rw [dif_pos nought]
    change (packComponents .binary64 sign _ _).toNat = _
    rw [toNat_packComponents]
    have smallest : exponent = -1074 := by omega
    simp [sizeBits, infinityBits, nought, smallest]
  next =>
    rw [dif_neg nought]
    have biased : (exponent + (Format.binary64.exponentBias : Int) +
        (Format.binary64.mantissaBitsWithoutImplicit : Int)).toNat = (exponent + 1075).toNat := by
      change (exponent + 1023 + 52).toNat = _
      omega
    delta UnpackedFloat.pack
    dsimp only
    rw [biased]
    change (if 2 ^ 11 <= (exponent + 1075).toNat + 1 then packedInfinity .binary64 sign else
      if mantissa.log2 + 1 = 53 then _ else _).toNat = _
    split
    next large =>
      rw [packedInfinity, toNat_packComponents]
      have capped : sizeBits mantissa exponent = infinityBits := by
        simp only [sizeBits, infinityBits, Nat.pow_eq]
        omega
      rw [capped]
      rfl
    next small =>
      split
      next bits =>
        have lower : 2 ^ 52 <= mantissa := by
          have := Nat.log2_self_le nought
          rwa [show mantissa.log2 = 52 by omega] at this
        rw [toNat_packComponents]
        simp only [BitVec.toNat_ofNat, sizeBits, infinityBits, Nat.pow_eq]
        omega
      next bits =>
        have below : mantissa < 2 ^ 52 := by
          refine (Nat.log2_lt nought).mp ?_
          have := (Nat.log2_lt nought).mpr fits
          omega
        have smallest : exponent = -1074 := by omega
        rw [toNat_packComponents]
        simp only [BitVec.toNat_ofNat, sizeBits, infinityBits, Nat.pow_eq, smallest]
        omega

theorem toNat_unpackExponent (bits : BitVec 64) :
    (@unpackExponent .binary64 bits).toNat = bits.toNat / 2 ^ 52 % 2 ^ 11 := by
  simp [unpackExponent, Nat.shiftRight_eq_div_pow]

theorem toNat_unpackMantissa (bits : BitVec 64) :
    (@unpackMantissa .binary64 bits).toNat = bits.toNat % 2 ^ 52 := by
  simp [unpackMantissa]

theorem toNat_unpackSign (bits : BitVec 64) :
    (@unpackSign .binary64 bits).toNat = bits.toNat / 2 ^ 63 % 2 := by
  delta unpackSign
  simp [Nat.shiftRight_eq_div_pow]

theorem ofBitVec_unpackSign {bits : BitVec 64} {sign : Sign}
    (minus : bits.toNat / 2 ^ 63 = if isNegative sign then 1 else 0) :
    Sign.ofBitVec (@unpackSign .binary64 bits) = sign := by
  have read := toNat_unpackSign bits
  rw [minus] at read
  cases sign with
  | positive => rw [show @unpackSign .binary64 bits = 0#1 from BitVec.eq_of_toNat_eq read]; rfl
  | negative => rw [show @unpackSign .binary64 bits = 1#1 from BitVec.eq_of_toNat_eq read]; rfl

theorem unpack_infinity {bits : BitVec 64} {sign : Sign}
    (whole : bits.toNat = signBits sign + infinityBits) :
    UnpackedFloat.unpack .binary64 bits = .infinity sign := by
  have minus : bits.toNat / 2 ^ 63 = if isNegative sign then 1 else 0 := by
    rw [whole]
    cases sign <;> rfl
  have exponent : @unpackExponent .binary64 bits = -1#11 := by
    apply BitVec.eq_of_toNat_eq
    rw [toNat_unpackExponent, whole]
    cases sign <;> rfl
  have mantissa : @unpackMantissa .binary64 bits = 0#52 := by
    apply BitVec.eq_of_toNat_eq
    rw [toNat_unpackMantissa, whole]
    cases sign <;> rfl
  delta UnpackedFloat.unpack
  dsimp only
  rw [if_pos exponent, if_pos mantissa, ofBitVec_unpackSign minus]

/-- What the places of the bits hold when they are those of a normal form. -/
structure Holds (bits : Nat) (sign : Sign) (mantissa : Nat) (exponent : Int) : Prop where
  sign : bits / 2 ^ 63 = if isNegative sign then 1 else 0
  field : bits / 2 ^ 52 % 2 ^ 11 = if mantissa < 2 ^ 52 then 0 else (exponent + 1075).toNat
  fraction : bits % 2 ^ 52 = if mantissa < 2 ^ 52 then mantissa else mantissa - 2 ^ 52

theorem Normal.holds {mantissa : Nat} {exponent : Int} (normal : Normal mantissa exponent)
    (inRange : exponent <= 971) (sign : Sign) :
    Holds (signBits sign + sizeBits mantissa exponent) sign mantissa exponent := by
  obtain ⟨fits, least, full⟩ := normal
  have size : sizeBits mantissa exponent = (exponent + 1074).toNat * 2 ^ 52 + mantissa := by
    simp only [sizeBits, infinityBits, Nat.pow_eq]
    omega
  rw [size]
  cases sign with
  | positive =>
    simp only [signBits, isNegative, Bool.false_eq_true, if_false]
    exact ⟨by change _ = 0; omega, by split <;> omega, by split <;> omega⟩
  | negative =>
    simp only [signBits, isNegative, if_true, Nat.pow_eq]
    exact ⟨by change _ = 1; omega, by split <;> omega, by split <;> omega⟩

theorem finite_congr {sign : Sign} {m n : Nat} {e f : Int} {some : 0 < m} {other : 0 < n}
    (mantissa : m = n) (exponent : e = f) :
    UnpackedFloat.finite sign m e some = .finite sign n f other := by
  subst mantissa exponent
  rfl

theorem unpack_finite {bits : BitVec 64} {sign : Sign} {mantissa : Nat} {exponent : Int}
    (normal : Normal mantissa exponent) (inRange : exponent <= 971)
    (whole : bits.toNat = signBits sign + sizeBits mantissa exponent) :
    UnpackedFloat.unpack .binary64 bits = unpacked sign mantissa exponent := by
  obtain ⟨minus, field, fraction⟩ := normal.holds inRange sign
  rw [<- whole] at minus field fraction
  rw [<- toNat_unpackExponent] at field
  rw [<- toNat_unpackMantissa] at fraction
  obtain ⟨fits, least, full⟩ := normal
  have notFull : @unpackExponent .binary64 bits ≠ -1#11 := by
    intro same
    rw [same] at field
    change 2047 = _ at field
    split at field <;> omega
  delta UnpackedFloat.unpack unpacked
  dsimp only
  rw [if_neg notFull, ofBitVec_unpackSign minus]
  by_cases small : mantissa < 2 ^ 52
  next =>
    rw [if_pos small] at field fraction
    have zero : @unpackExponent .binary64 bits = 0#11 := BitVec.eq_of_toNat_eq field
    rw [if_pos zero]
    by_cases none : @unpackMantissa .binary64 bits = 0#52
    next =>
      have nought : mantissa = 0 := by rw [<- fraction, none]; rfl
      rw [dif_pos none, dif_pos nought]
    next =>
      have some : mantissa ≠ 0 := by
        intro nought
        exact none (BitVec.eq_of_toNat_eq (fraction.trans nought))
      have smallest : exponent = -1074 := by omega
      rw [dif_neg none, dif_neg some, smallest]
      refine finite_congr fraction ?_
      rw [field]
      rfl
  next =>
    rw [if_neg small] at field fraction
    have later : @unpackExponent .binary64 bits ≠ 0#11 := by
      intro same
      rw [same] at field
      change 0 = _ at field
      omega
    rw [if_neg later, dif_neg (by omega)]
    refine finite_congr ?_ ?_
    next =>
      rw [BitVec.toNat_append, <- Nat.shiftLeft_add_eq_or_of_lt (BitVec.isLt _), fraction,
        Nat.shiftLeft_eq, show (1#1).toNat = 1 from rfl,
        show Format.binary64.mantissaBitsWithoutImplicit = 52 from rfl]
      omega
    next =>
      rw [field, show (Format.binary64.exponentBias : Int) = 1023 from rfl]
      omega

theorem parts_of_infinityBits {x : Float} {sign : Sign}
    (whole : x.toBits.toNat = signBits sign + infinityBits) :
    parts x = .infinite (isNegative sign) := by
  unfold parts
  rw [whole]
  cases sign <;> rfl

theorem parts_of_bits {x : Float} {sign : Sign} {mantissa : Nat} {exponent : Int}
    (normal : Normal mantissa exponent) (inRange : exponent <= 971)
    (whole : x.toBits.toNat = signBits sign + sizeBits mantissa exponent) :
    parts x = .finite (isNegative sign) mantissa exponent := by
  obtain ⟨minus, field, fraction⟩ := normal.holds inRange sign
  rw [<- whole] at minus field fraction
  obtain ⟨fits, least, full⟩ := normal
  simp only [parts, Nat.pow_eq, minus, field, fraction]
  by_cases small : mantissa < 2 ^ 52
  next =>
    have smallest : exponent = -1074 := by omega
    rw [if_pos small, if_pos small, smallest]
    cases sign <;> rfl
  next =>
    rw [if_neg small, if_neg small]
    have inner : ((exponent + 1075).toNat == 2047) = false := by
      rw [beq_eq_false_iff_ne]
      omega
    have later : ((exponent + 1075).toNat == 0) = false := by
      rw [beq_eq_false_iff_ne]
      omega
    have given : mantissa - 2 ^ 52 + 2 ^ 52 = mantissa := by omega
    have placed : ((exponent + 1075).toNat : Int) - 1075 = exponent := by omega
    rw [inner, later, given, placed]
    cases sign <;> rfl

structure Form (x : Float) (sign : Sign) (mantissa : Nat) (exponent : Int) : Prop where
  normal : Normal mantissa exponent
  inRange : exponent <= 971
  bits : x.toBits.toNat = signBits sign + sizeBits mantissa exponent

theorem Form.parts {x : Float} {sign : Sign} {mantissa : Nat} {exponent : Int}
    (form : Form x sign mantissa exponent) :
    parts x = .finite (isNegative sign) mantissa exponent :=
  parts_of_bits form.normal form.inRange form.bits

theorem Form.unpack {x : Float} {sign : Sign} {mantissa : Nat} {exponent : Int}
    (form : Form x sign mantissa exponent) :
    x.toModel.unpack = unpacked sign mantissa exponent :=
  unpack_finite form.normal form.inRange form.bits

theorem exists_form {x : Float} (finite : isFinite x = true) :
    ∃ sign mantissa exponent, Form x sign mantissa exponent := by
  have bound := x.toBits.toNat_lt
  obtain ⟨sign, minus⟩ : ∃ sign, x.toBits.toNat / 2 ^ 63 = if isNegative sign then 1 else 0 := by
    by_cases high : x.toBits.toNat < 2 ^ 63
    next =>
      refine ⟨.positive, ?_⟩
      change _ = 0
      omega
    next =>
      refine ⟨.negative, ?_⟩
      change _ = 1
      omega
  have signed : signBits sign = x.toBits.toNat / 2 ^ 63 * 2 ^ 63 := by
    rw [minus]
    cases sign <;> rfl
  have inner : x.toBits.toNat / 2 ^ 52 % 2 ^ 11 ≠ 2047 := by
    intro full
    simp only [isFinite, Number.parts, Nat.pow_eq, full, beq_self_eq_true, if_true] at finite
    split at finite
    next read => split at read <;> cases read
    next => cases finite
  by_cases small : x.toBits.toNat / 2 ^ 52 % 2 ^ 11 = 0
  next =>
    refine ⟨sign, x.toBits.toNat % 2 ^ 52, -1074, ⟨by omega, by omega, .inr rfl⟩, by omega, ?_⟩
    simp only [sizeBits, infinityBits, Nat.pow_eq]
    omega
  next =>
    refine ⟨sign, x.toBits.toNat % 2 ^ 52 + 2 ^ 52,
      ((x.toBits.toNat / 2 ^ 52 % 2 ^ 11 : Nat) : Int) - 1075,
      ⟨by omega, by omega, .inl (by omega)⟩, by omega, ?_⟩
    simp only [sizeBits, infinityBits, Nat.pow_eq]
    omega

end SensorAlerting.Number
