import SensorAlerting.Proofs.Number.Exact

set_option autoImplicit false

/-!
Five equal doubles added up, and the sum divided by five. Each sum so far is rounded, the fourth one
back to what it should be; the fifth may be off by so much that the quotient misses the double by
one in its last place.
-/

namespace SensorAlerting.Number

open Float.Model UnpackedFloat

theorem roundQuotient_spec (n : Nat) {d : Nat} (pos : 0 < d) :
    let q := roundQuotient n d
    2 * n <= d * (2 * q) + d ∧ d * (2 * q) <= 2 * n + d ∧
      (2 * n = d * (2 * q) + d ∨ d * (2 * q) = 2 * n + d -> q % 2 = 0) := by
  have whole := Nat.div_add_mod n d
  have rest := Nat.mod_lt n pos
  have twice : d * (2 * (n / d)) = 2 * (d * (n / d)) := by ring
  have next : d * (2 * (n / d + 1)) = 2 * (d * (n / d)) + 2 * d := by ring
  unfold roundQuotient
  dsimp only
  split
  next => omega
  next =>
    split
    next => omega
    next =>
      -- A half is rounded up if the integer below it is odd.
      obtain even | odd := Nat.mod_two_eq_zero_or_one (n / d)
      next =>
        rw [even, Nat.add_zero]
        omega
      next =>
        rw [odd]
        omega

theorem nearest_fraction {n d : Nat} {e : Int} (least : -1074 <= e) (low : 2 ^ 52 * d <= n)
    (high : n < 2 ^ 53 * d) : nearest (n / d * 2 ^ e) = roundQuotient n d * 2 ^ e := by
  have pos : 0 < d := by omega
  have unit := power_pos e
  have denominator : (0 : Rat) < d := Nat.cast_pos.mpr pos
  have lower : (2 : Rat) ^ (52 : Int) <= n / d := by
    rw [le_div_iff₀ denominator]
    exact_mod_cast low
  have upper : (n : Rat) / d < 2 ^ (53 : Int) := by
    rw [div_lt_iff₀ denominator]
    exact_mod_cast high
  have size : |(n : Rat) / d * 2 ^ e| = n / d * 2 ^ e := abs_of_nonneg (by positivity)
  have place : lastPlace (n / d * 2 ^ e) = e := by
    refine lastPlace_eq (.inl ?_) least ?_
    next =>
      rw [size, add_comm, power_add]
      exact mul_le_mul_of_nonneg_right lower unit.le
    next =>
      rw [size, add_comm, power_add]
      exact mul_lt_mul_of_pos_right upper unit
  rw [nearest, place, mul_div_cancel_right₀ _ unit.ne', <- roundQuotient_eq n pos, Int.cast_natCast]

theorem nearest_multiple {n : Nat} {e : Int} (c : Nat) (least : -1074 <= e)
    (low : 2 ^ 52 * 2 ^ c <= n) (high : n < 2 ^ 53 * 2 ^ c) :
    nearest (n * 2 ^ e) = (roundQuotient n (2 ^ c) * 2 ^ c : Nat) * 2 ^ e := by
  have later : (2 : Rat) ^ (e + c) = 2 ^ c * 2 ^ e := by
    rw [add_comm, power_add, zpow_natCast]
  have same : (n : Rat) * 2 ^ e = n / (2 ^ c : Nat) * 2 ^ (e + c) := by
    rw [later]
    push_cast
    field_simp
  rw [same, nearest_fraction (by omega) low high, later]
  push_cast
  ring

def thrice (m : Nat) : Nat :=
  if 3 * m < 2 ^ 54 then roundQuotient (3 * m) 2 * 2 else roundQuotient (3 * m) 4 * 4

def fivefold (m : Nat) : Nat :=
  if 5 * m < 2 ^ 55 then roundQuotient (5 * m) 4 * 4 else roundQuotient (5 * m) 8 * 8

section Sums

variable {m : Nat} {e : Int}

theorem nearest_twice (least : -1074 <= e) (low : 2 ^ 52 <= m) (high : m < 2 ^ 53) :
    nearest ((2 * m : Nat) * 2 ^ e) = (2 * m : Nat) * 2 ^ e := by
  rw [nearest_multiple 1 least (by omega) (by omega)]
  have spec := roundQuotient_spec (2 * m) (by decide : 0 < 2 ^ 1)
  have even : roundQuotient (2 * m) (2 ^ 1) * 2 ^ 1 = 2 * m := by omega
  rw [even]

theorem nearest_thrice (least : -1074 <= e) (low : 2 ^ 52 <= m) (high : m < 2 ^ 53) :
    nearest ((3 * m : Nat) * 2 ^ e) = (thrice m : Nat) * 2 ^ e := by
  unfold thrice
  split
  next => exact nearest_multiple 1 least (by omega) (by omega)
  next => exact nearest_multiple 2 least (by omega) (by omega)

/-- The third sum is a multiple of two or of four next to what it should be. -/
theorem thrice_cases (m : Nat) :
    3 * m < 2 ^ 54 ∧ thrice m % 2 = 0 ∧ thrice m <= 3 * m + 1 ∧ 3 * m <= thrice m + 1 ∨
      2 ^ 54 <= 3 * m ∧ thrice m % 4 = 0 ∧ thrice m <= 3 * m + 2 ∧ 3 * m <= thrice m + 2 := by
  have halves := roundQuotient_spec (3 * m) (by decide : 0 < 2)
  have quarters := roundQuotient_spec (3 * m) (by decide : 0 < 4)
  unfold thrice
  split <;> omega

/-- What is rounded off the third sum is too little to be seen in the fourth. -/
theorem nearest_fourfold (least : -1074 <= e) (low : 2 ^ 52 <= m) (high : m < 2 ^ 53) :
    nearest ((thrice m + m : Nat) * 2 ^ e) = (4 * m : Nat) * 2 ^ e := by
  have third := thrice_cases m
  have between : 2 ^ 52 * 2 ^ 2 <= thrice m + m ∧ thrice m + m < 2 ^ 53 * 2 ^ 2 := by
    obtain least | more := low.eq_or_lt <;> omega
  have back : roundQuotient (thrice m + m) (2 ^ 2) = m := by
    obtain ⟨lower, upper, tie⟩ := roundQuotient_spec (thrice m + m) (by decide : 0 < 2 ^ 2)
    -- Halfway from one multiple of four to the next the mantissa is even, so that it is kept.
    have near : roundQuotient (thrice m + m) (2 ^ 2) = m ∨
        roundQuotient (thrice m + m) (2 ^ 2) = m + 1 ∨
        roundQuotient (thrice m + m) (2 ^ 2) + 1 = m := by omega
    omega
  rw [nearest_multiple 2 least between.1 between.2, back, Nat.mul_comm]
  rfl

/-- The fifth sum is the multiple of four or of eight next to what it should be. -/
theorem fivefold_cases (m : Nat) :
    5 * m < 2 ^ 55 ∧ fivefold m % 4 = 0 ∧ fivefold m <= 5 * m + 2 ∧ 5 * m <= fivefold m + 2 ∨
      2 ^ 55 <= 5 * m ∧
        (5 * m % 8 <= 4 ∧ fivefold m + 5 * m % 8 = 5 * m ∨
          4 <= 5 * m % 8 ∧ fivefold m + 5 * m % 8 = 5 * m + 8) := by
  have quarters := roundQuotient_spec (5 * m) (by decide : 0 < 4)
  have eighths := roundQuotient_spec (5 * m) (by decide : 0 < 8)
  unfold fivefold
  split <;> omega

theorem nearest_fivefold (least : -1074 <= e) (low : 2 ^ 52 <= m) (high : m < 2 ^ 53) :
    nearest ((5 * m : Nat) * 2 ^ e) = (fivefold m : Nat) * 2 ^ e := by
  unfold fivefold
  split
  next => exact nearest_multiple 2 least (by omega) (by omega)
  next => exact nearest_multiple 3 least (by omega) (by omega)

theorem nearest_fifth (least : -1074 <= e) (low : 2 ^ 52 <= m) (high : m < 2 ^ 53) :
    nearest (fivefold m / (5 : Nat) * 2 ^ e) = roundQuotient (fivefold m) 5 * 2 ^ e := by
  have fifth := fivefold_cases m
  exact nearest_fraction least (by omega) (by omega)

end Sums

/-- A mantissa that comes back: five of it have 55 bits, or less than three is rounded off them. -/
def comesBack (m : Nat) : Bool := 5 * m < Nat.pow 2 55 || !([1, 4, 7].contains (m % 8))

theorem comesBack_iff (m : Nat) :
    comesBack m = true ↔ 5 * m < 2 ^ 55 ∨ m % 8 ≠ 1 ∧ m % 8 ≠ 4 ∧ m % 8 ≠ 7 := by
  simp [comesBack]

theorem fifth_of_comesBack {m : Nat} (back : comesBack m = true) :
    roundQuotient (fivefold m) 5 = m := by
  have fifth := fivefold_cases m
  have spec := roundQuotient_spec (fivefold m) (by decide : 0 < 5)
  obtain short | long := (comesBack_iff m).mp back
  next => omega
  next =>
    have rest : m % 8 = 0 ∨ m % 8 = 2 ∨ m % 8 = 3 ∨ m % 8 = 5 ∨ m % 8 = 6 := by omega
    rcases rest with rest | rest | rest | rest | rest <;> omega

theorem fifth_of_not_comesBack {m : Nat} (away : comesBack m = false) :
    roundQuotient (fivefold m) 5 = m + 1 ∨ roundQuotient (fivefold m) 5 + 1 = m := by
  have far := mt (comesBack_iff m).mpr (Bool.eq_false_iff.mp away)
  have fifth := fivefold_cases m
  have spec := roundQuotient_spec (fivefold m) (by decide : 0 < 5)
  have rest : m % 8 = 1 ∨ m % 8 = 4 ∨ m % 8 = 7 := by omega
  rcases rest with rest | rest | rest <;> omega

theorem fifth_spec (m : Nat) :
    |(m : Int) - roundQuotient (fivefold m) 5| <= 1 ∧
      (comesBack m = true ↔ m = roundQuotient (fivefold m) 5) := by
  rw [abs_le]
  cases back : comesBack m with
  | true =>
    have same := fifth_of_comesBack back
    exact ⟨⟨by omega, by omega⟩, iff_of_true rfl same.symm⟩
  | false =>
    have next := fifth_of_not_comesBack back
    exact ⟨⟨by omega, by omega⟩, iff_of_false Bool.false_ne_true (by omega)⟩

theorem mod_eight_of_short {count m : Nat} {place e : Int} (few : count < 2 ^ 50)
    (full : 2 ^ 52 <= m) (same : (count : Rat) * 2 ^ place = m * 2 ^ e) : m % 8 = 0 := by
  have spare : e + 3 <= place := by
    by_contra early
    have short : (count : Rat) < 2 ^ (50 : Int) := by exact_mod_cast few
    have many : (2 : Rat) ^ (52 : Int) <= m := by exact_mod_cast full
    have below := calc (m : Rat) * 2 ^ e = count * 2 ^ place := same.symm
      _ < 2 ^ (50 : Int) * 2 ^ place := mul_lt_mul_of_pos_right short (power_pos place)
      _ <= 2 ^ (50 : Int) * 2 ^ (2 + e) :=
        mul_le_mul_of_nonneg_left (power_mono (by omega)) (power_pos 50).le
      _ = 2 ^ (52 : Int) * 2 ^ e := by
        rw [power_add, <- mul_assoc, <- power_add]
        rfl
    exact absurd (mul_le_mul_of_nonneg_right many (power_pos e).le) (not_le.mpr below)
  obtain ⟨further, rfl⟩ : ∃ further : Nat, place = further + 3 + e :=
    ⟨(place - 3 - e).toNat, by omega⟩
  rw [power_add, power_add, zpow_natCast, <- mul_assoc] at same
  have eights : count * (2 ^ further * 8) = m := by
    have cancelled := mul_right_cancel₀ (power_pos e).ne' same
    norm_num at cancelled
    exact_mod_cast cancelled
  rw [<- eights, <- Nat.mul_assoc]
  omega

theorem abs_withSign_lt (sign : Sign) {count : Nat} {e : Int} (few : count < 2 ^ 60)
    (early : e <= 900) : |withSign sign (count * 2 ^ e)| < 2 ^ (1024 : Int) := by
  rw [abs_withSign, <- Int.cast_natCast]
  refine abs_scaled_lt ?_ early
  rw [Nat.abs_cast]
  omega

section Repeated

variable {x : Float} {sign : Sign} {m : Nat} {e : Int}

theorem Stands.addOnce {sum : Float} {count next : Nat}
    (so : Stands sum (withSign sign (count * 2 ^ e))) (item : Stands x (withSign sign (m * 2 ^ e)))
    (rounded : nearest ((count + m : Nat) * 2 ^ e) = next * 2 ^ e) (few : next < 2 ^ 60)
    (early : e <= 900) : Stands (sum + x) (withSign sign (next * 2 ^ e)) := by
  refine so.add item ?_ (abs_withSign_lt sign few early)
  rw [withSign_add, <- add_mul, <- Nat.cast_add, nearest_withSign, rounded]

theorem stands_fivefold (form : Form x sign m e) (low : 2 ^ 52 <= m) (early : e <= 900) :
    Stands (0 + x + x + x + x + x) (withSign sign (fivefold m * 2 ^ e)) := by
  have high := form.normal.fits
  have least := form.normal.least
  have item : Stands x (withSign sign (m * 2 ^ e)) :=
    ⟨by rw [isFinite, form.parts], form.value⟩
  have few : thrice m < 2 ^ 60 ∧ fivefold m < 2 ^ 60 := by
    have third := thrice_cases m
    have fifth := fivefold_cases m
    omega
  have first : Stands (0 + x) (withSign sign (m * 2 ^ e)) := by
    refine stands_zero.add item ?_ (abs_withSign_lt sign (by omega) early)
    rw [zero_add, nearest_withSign, nearest_of_representable form.normal.representable]
  have second : Stands (0 + x + x) (withSign sign ((2 * m : Nat) * 2 ^ e)) := by
    refine first.addOnce item ?_ (by omega) early
    rw [<- two_mul]
    exact nearest_twice least low high
  have third : Stands (0 + x + x + x) (withSign sign (thrice m * 2 ^ e)) := by
    refine second.addOnce item ?_ (by omega) early
    rw [<- Nat.succ_mul]
    exact nearest_thrice least low high
  have fourth : Stands (0 + x + x + x + x) (withSign sign ((4 * m : Nat) * 2 ^ e)) :=
    third.addOnce item (nearest_fourfold least low high) (by omega) early
  refine fourth.addOnce item ?_ (by omega) early
  rw [<- Nat.succ_mul]
  exact nearest_fivefold least low high

/-- The mean is off by one in the last place just if the mantissa does not come back. -/
theorem stands_fifth (form : Form x sign m e) (low : 2 ^ 52 <= m) (early : e <= 900) {five : Float}
    (divisor : Stands five (5 : Nat)) :
    Stands ((0 + x + x + x + x + x) / five)
      (withSign sign (roundQuotient (fivefold m) 5 * 2 ^ e)) := by
  have high := form.normal.fits
  have least := form.normal.least
  refine (stands_fivefold form low early).div divisor (by norm_num) ?_
    (abs_withSign_lt sign ?_ early)
  next =>
    have fraction : withSign sign ((fivefold m : Rat) * 2 ^ e) / (5 : Nat) =
        withSign sign (fivefold m / (5 : Nat) * 2 ^ e) := by
      cases sign with
      | positive => exact mul_div_right_comm ..
      | negative => exact (neg_div ..).trans (congrArg _ (mul_div_right_comm ..))
    rw [fraction, nearest_withSign, nearest_fifth least low high]
  next =>
    have fifth := fivefold_cases m
    have spec := roundQuotient_spec (fivefold m) (by decide : 0 < 5)
    omega

end Repeated

end SensorAlerting.Number
