import SensorAlerting.Number.Reading
import SensorAlerting.Number.Text
import SensorAlerting.Proofs.Number.Doubles
import SensorAlerting.Proofs.Number.Order
import SensorAlerting.Proofs.Number.Shortest
import SensorAlerting.Proofs.Text.Digits

set_option autoImplicit false

/-!
Decimals as doubles. A decimal is read as the double nearest to it, and a double is the only one
nearest to the decimal of its shortest digits.
-/

namespace SensorAlerting.Number

open Float.Model UnpackedFloat SensorAlerting.Text

/-- What lies far outside the range of doubles is taken for a number that does so, too. -/
theorem ofDecimal_eq (negative : Bool) (digits : Nat) (power : Int) :
    ofDecimal negative digits power =
      ofQuotient negative (digits * Nat.pow 10 power.toNat) (Nat.pow 10 (-power).toNat) := by
  rcases le_or_gt power 0 with notAbove | above
  next =>
    obtain ⟨places, rfl⟩ : ∃ places : Nat, power = -(places : Int) := ⟨(-power).toNat, by omega⟩
    rw [ofDecimal_places]
    simp
  next =>
    obtain ⟨count, rfl⟩ : ∃ count : Nat, power = count := ⟨power.toNat, by omega⟩
    unfold ofDecimal
    dsimp only
    split_ifs with zero many few
    next =>
      rw [beq_iff_eq] at zero
      simp [zero]
    next =>
      have some : digits ≠ 0 := fun none => zero (by simp [none])
      have positive := Nat.length_toDigits_pos (b := 10) (n := digits)
      have large : limit <= (digits * Nat.pow 10 count : Nat) / (1 : Nat) := by
        have least := ten_length_le some
        calc limit <= (10 : Rat) ^ 400 := limit_le_power
          _ <= 10 ^ (((Nat.toDigits 10 digits).length : Int) - 1 + count) := by
              rw [<- zpow_natCast]
              exact zpow_le_zpow_right₀ (by norm_num) (by push_cast; omega)
          _ = 10 ^ (((Nat.toDigits 10 digits).length : Int) - 1) * 10 ^ (count : Int) :=
              ten_add _ _
          _ <= digits * 10 ^ (count : Int) := mul_le_mul_of_nonneg_right least (ten_pos _).le
          _ = (digits * Nat.pow 10 count : Nat) / (1 : Nat) := by
              rw [zpow_natCast]
              push_cast [Nat.pow_eq]
              ring
      have whole : (-(count : Int)).toNat = 0 := by omega
      rw [Int.toNat_natCast, whole]
      have beyond : magnitudeBits (digits * Nat.pow 10 count) (Nat.pow 10 0) = infinityBits :=
        magnitudeBits_large Nat.one_pos large
      exact ofQuotient_huge negative (by decide +kernel) beyond
    next => omega
    next => rfl

theorem isNearest_ofDecimal (negative : Bool) (digits : Nat) (power : Int) :
    IsNearest (ofDecimal negative digits power)
      (if negative then -((digits : Rat) * 10 ^ power) else digits * 10 ^ power) := by
  have size : ((digits * Nat.pow 10 power.toNat : Nat) : Rat) /
      (Nat.pow 10 (-power).toNat : Nat) = digits * 10 ^ power := by
    have scale : (0 : Rat) < 10 ^ (-power).toNat := by positivity
    rw [div_eq_iff (by push_cast [Nat.pow_eq]; exact scale.ne'), mul_assoc]
    push_cast [Nat.pow_eq]
    rw [ten_mul_toNat]
  rw [ofDecimal_eq, <- size]
  exact isNearest_ofQuotient negative _ (Nat.pow_pos (by norm_num))

section Back

variable {x y : Float} {sign : Sign} {mantissa : Nat} {exponent : Int}

theorem withSign_inj {other : Sign} {size another : Rat} (positive : 0 < size)
    (notNegative : 0 <= another) (same : withSign other another = withSign sign size) :
    other = sign ∧ another = size := by
  cases other <;> cases sign
  next => exact ⟨rfl, neg_inj.mp same⟩
  next =>
    have below : -another = size := same
    linarith
  next =>
    have above : another = -size := same
    linarith
  next => exact ⟨rfl, same⟩

theorem Normal.inj {m n : Nat} {e f : Int} (left : Normal m e) (right : Normal n f)
    (same : (m : Rat) * 2 ^ e = n * 2 ^ f) : m = n ∧ e = f := by
  have compared := left.compare right
  rw [same, compare_eq_iff_eq.mpr rfl, Ordering.then_eq_eq] at compared
  exact ⟨compare_eq_iff_eq.mp compared.2, compare_eq_iff_eq.mp compared.1⟩

/-- A double other than nought is the only one nearest to what is rounded to it. -/
theorem Form.eq_of_isNearest {q : Rat} (form : Form x sign mantissa exponent)
    (some : mantissa ≠ 0) (isNearest : IsNearest y q)
    (rounded : nearest q = withSign sign (mantissa * 2 ^ exponent)) : y = x := by
  obtain ⟨other, m, e, normal, value, bits⟩ := isNearest
  have positive : (0 : Rat) < mantissa * 2 ^ exponent :=
    mul_pos (Nat.cast_pos.mpr (Nat.pos_of_ne_zero some)) (power_pos exponent)
  obtain ⟨rfl, size⟩ := withSign_inj positive (mul_nonneg (Nat.cast_nonneg m) (power_pos e).le)
    (value.trans rounded)
  obtain ⟨rfl, rfl⟩ := normal.inj form.normal size
  exact eq_of_toBits (UInt64.toNat_inj.mp (bits.trans form.bits.symm))

theorem Form.ofDecimal_zero (form : Form x sign 0 exponent) (power : Int) :
    ofDecimal (isNegative sign) 0 power = x := by
  obtain rfl : exponent = -1074 := form.normal.full.resolve_left (by norm_num)
  have size : sizeBits 0 (-1074) = 0 := by decide
  have none : ofDecimal (isNegative sign) 0 power = ofQuotient (isNegative sign) 0 1 := rfl
  have whole : (if isNegative sign then magnitudeBits 0 1 + Nat.pow 2 63 else magnitudeBits 0 1) =
      signBits sign + sizeBits 0 (-1074) := by
    cases sign <;> decide
  rw [none]
  refine eq_of_toBits (UInt64.toNat_inj.mp ?_)
  rw [form.bits]
  exact (toBits_ofBits form.normal whole).trans whole

theorem Form.ofDecimal_eq (form : Form x sign mantissa exponent) (some : mantissa ≠ 0)
    {digits : Nat} {power : Int}
    (rounded : nearest (digits * 10 ^ power) = mantissa * 2 ^ exponent) :
    ofDecimal (isNegative sign) digits power = x := by
  refine form.eq_of_isNearest some (isNearest_ofDecimal _ digits power) ?_
  have signed : (if isNegative sign then -((digits : Rat) * 10 ^ power)
      else digits * 10 ^ power) = withSign sign (digits * 10 ^ power) := rfl
  rw [signed, nearest_withSign, rounded]

end Back

section Digits

structure Digits.Writes (written : Digits) (q : Rat) : Prop where
  only : ∀ digit ∈ written.digits, isAsciiDigit digit = true
  first : ∃ digit rest, written.digits = digit :: rest ∧ digit ≠ '0'
  value : (digitsValue written.digits : Rat) * 10 ^ (written.point - written.digits.length) = q

theorem exists_trailing (letters : List Char) : ∃ count,
    letters = (letters.reverse.dropWhile fun digit => digit == '0').reverse ++ zeros count := by
  have parts := List.takeWhile_append_dropWhile (p := fun digit => digit == '0')
    (l := letters.reverse)
  have noughts : letters.reverse.takeWhile (fun digit => digit == '0') =
      zeros (letters.reverse.takeWhile fun digit => digit == '0').length := by
    refine List.eq_replicate_of_mem fun digit member => ?_
    exact beq_iff_eq.mp (List.all_eq_true.mp List.all_takeWhile digit member)
  refine ⟨(letters.reverse.takeWhile fun digit => digit == '0').length, ?_⟩
  have turned := congrArg List.reverse parts
  rw [List.reverse_append, List.reverse_reverse] at turned
  rw [noughts, zeros, List.reverse_replicate] at turned
  exact turned.symm

theorem writes_ofScaled {count : Nat} (some : count ≠ 0) (power : Int) :
    (Digits.ofScaled count power).Writes (count * 10 ^ power) := by
  obtain ⟨noughts, parts⟩ := exists_trailing (natChars count)
  obtain ⟨digit, rest, begins, other⟩ := exists_first_natChars some
  have scaled : Digits.ofScaled count power =
      { digits := ((natChars count).reverse.dropWhile fun digit => digit == '0').reverse
        point := (natChars count).length + power } := rfl
  rw [scaled]
  generalize ((natChars count).reverse.dropWhile fun digit => digit == '0').reverse = digits
    at parts
  refine ⟨fun letter member => ?_, ?_, ?_⟩
  next =>
    have written : letter ∈ natChars count := parts ▸ List.mem_append_left _ member
    exact isAsciiDigit_of_mem_natChars written
  next =>
    rw [begins] at parts
    cases digits with
    | nil =>
      have nought : digit ∈ zeros noughts := by
        rw [<- List.nil_append (zeros noughts), <- parts]
        exact List.mem_cons_self
      exact absurd (List.eq_of_mem_replicate nought) other
    | cons first more => exact ⟨first, more, rfl, (List.cons.inj parts).1 ▸ other⟩
  next =>
    have value := digitsValue_natChars count
    rw [parts, digitsValue_append, digitsValue_zeros, zeros, List.length_replicate,
      Nat.add_zero] at value
    have length := congrArg List.length parts
    rw [List.length_append, zeros, List.length_replicate] at length
    have place : ((natChars count).length : Int) + power - digits.length = noughts + power := by
      omega
    dsimp only
    rw [place, ten_add, <- mul_assoc, zpow_natCast]
    congr 1
    exact_mod_cast value

end Digits

theorem Form.shortest {x : Float} {sign : Sign} {mantissa : Nat} {exponent : Int}
    (form : Form x sign mantissa exponent) (some : mantissa ≠ 0) :
    ∃ q, (Number.shortest mantissa exponent).Writes q ∧ ∀ (digits : Nat) (power : Int),
      (digits : Rat) * 10 ^ power = q -> ofDecimal (isNegative sign) digits power = x := by
  obtain ⟨count, power, written, rounded⟩ := shortest_spec form.normal some
  have counted : count ≠ 0 := by
    rintro rfl
    rw [Nat.cast_zero, zero_mul, nearest_zero] at rounded
    have positive := mul_pos (Nat.cast_pos.mpr (Nat.pos_of_ne_zero some)) (power_pos exponent)
    exact positive.ne rounded
  refine ⟨count * 10 ^ power, written ▸ writes_ofScaled counted power, fun digits other same => ?_⟩
  exact form.ofDecimal_eq some (same ▸ rounded)

end SensorAlerting.Number
