import Mathlib.Data.Int.Log
import Mathlib.Data.Rat.Floor
import Mathlib.Tactic.Linarith
import Mathlib.Tactic.NormNum
import Mathlib.Tactic.Ring

set_option autoImplicit false

/-!
Rationals rounded to 53 bits, or to the last place of the smallest double. Nothing is too large
here: what doubles cannot hold is seen from the result.
-/

namespace SensorAlerting.Number

/-- The integer nearest to a rational, of two the even one. -/
def nearestWhole (q : Rat) : Int :=
  if 2 * Int.fract q < 1 then ⌊q⌋
  else if 1 < 2 * Int.fract q then ⌊q⌋ + 1
  else ⌊q⌋ + ⌊q⌋ % 2

@[simp]
theorem nearestWhole_intCast (n : Int) : nearestWhole n = n := by
  simp [nearestWhole]

theorem floor_le_nearestWhole (q : Rat) : ⌊q⌋ <= nearestWhole q := by
  unfold nearestWhole
  split_ifs <;> omega

theorem nearestWhole_le_floor (q : Rat) : nearestWhole q <= ⌊q⌋ + 1 := by
  unfold nearestWhole
  split_ifs <;> omega

theorem nearestWhole_mono {q r : Rat} (order : q <= r) : nearestWhole q <= nearestWhole r := by
  rcases (Int.floor_mono order).lt_or_eq with below | same
  next =>
    have upper := nearestWhole_le_floor q
    have lower := floor_le_nearestWhole r
    omega
  next =>
    have fractions : Int.fract q <= Int.fract r := by
      rw [Int.fract, Int.fract, same]
      linarith
    unfold nearestWhole
    rw [same]
    split_ifs <;> first | omega | (exfalso; linarith)

theorem nearestWhole_neg (q : Rat) : nearestWhole (-q) = -nearestWhole q := by
  by_cases whole : Int.fract q = 0
  next =>
    obtain ⟨n, rfl⟩ : ∃ n : Int, (n : Rat) = q := ⟨⌊q⌋, by rw [Int.fract] at whole; linarith⟩
    rw [<- Int.cast_neg, nearestWhole_intCast, nearestWhole_intCast]
  next =>
    have fraction : Int.fract (-q) = 1 - Int.fract q := Int.fract_neg whole
    have floor : ⌊-q⌋ = -⌊q⌋ - 1 := by
      have parts := Int.floor_add_fract q
      have negatives := Int.floor_add_fract (-q)
      have sum : (⌊-q⌋ : Rat) = ((-⌊q⌋ - 1 : Int) : Rat) := by
        push_cast
        linarith
      exact_mod_cast sum
    unfold nearestWhole
    rw [fraction, floor]
    split_ifs <;> first | omega | (exfalso; linarith)

theorem nearestWhole_div (numerator : Int) {denominator : Nat} (pos : 0 < denominator) :
    nearestWhole (numerator / denominator : Rat) =
      if 2 * (numerator % denominator) < denominator then numerator / denominator
      else if (denominator : Int) < 2 * (numerator % denominator) then numerator / denominator + 1
      else numerator / denominator + numerator / denominator % 2 := by
  have floor : ⌊(numerator / denominator : Rat)⌋ = numerator / denominator :=
    (Int.floor_div_natCast _ denominator).trans (by rw [Int.floor_intCast])
  have positive : (0 : Rat) < denominator := Nat.cast_pos.mpr pos
  have twice : 2 * Int.fract (numerator / denominator : Rat) =
      (2 * (numerator % denominator) : Int) / denominator := by
    rw [Int.fract_div_intCast_eq_div_intCast_mod]
    push_cast
    ring
  have below : 2 * Int.fract (numerator / denominator : Rat) < 1 ↔
      2 * (numerator % denominator) < denominator := by
    rw [twice, div_lt_one positive]
    exact_mod_cast Iff.rfl
  have above : 1 < 2 * Int.fract (numerator / denominator : Rat) ↔
      (denominator : Int) < 2 * (numerator % denominator) := by
    rw [twice, one_lt_div positive]
    exact_mod_cast Iff.rfl
  simp only [nearestWhole, below, above, floor]

/-- The exponent of the last place of a rational: it has 53 bits up to there, or this is the last
place of the smallest double. -/
def lastPlace (q : Rat) : Int :=
  if q = 0 then -1074 else max (Int.log 2 |q| - 52) (-1074)

def nearest (q : Rat) : Rat := nearestWhole (q / 2 ^ lastPlace q) * 2 ^ lastPlace q

theorem least_lastPlace (q : Rat) : -1074 <= lastPlace q := by
  unfold lastPlace
  split_ifs <;> omega

theorem power_pos (e : Int) : (0 : Rat) < 2 ^ e := zpow_pos (by norm_num) e

theorem power_mono {d e : Int} (order : d <= e) : (2 : Rat) ^ d <= 2 ^ e :=
  zpow_le_zpow_right₀ (by norm_num) order

theorem power_lt_iff {d e : Int} : (2 : Rat) ^ d < 2 ^ e ↔ d < e :=
  zpow_lt_zpow_iff_right₀ (by norm_num)

theorem power_add (d e : Int) : (2 : Rat) ^ (d + e) = 2 ^ d * 2 ^ e := zpow_add₀ (by norm_num) d e

theorem power_mul_toNat (e : Int) : (2 : Rat) ^ e * 2 ^ (-e).toNat = 2 ^ e.toNat := by
  rw [<- zpow_natCast, <- zpow_natCast, <- power_add]
  congr 1
  omega

theorem power_log2_le {n : Nat} (some : n ≠ 0) : (2 : Rat) ^ (n.log2 : Int) <= n := by
  rw [zpow_natCast]
  exact_mod_cast Nat.log2_self_le some

theorem lt_power_log2 (n : Nat) : (n : Rat) < 2 ^ ((n.log2 : Int) + 1) := by
  exact_mod_cast Nat.lt_log2_self

theorem lt_lastPlace (q : Rat) : |q| < 2 ^ (lastPlace q + 53) := by
  unfold lastPlace
  split_ifs with zero
  next =>
    rw [zero, abs_zero]
    exact power_pos _
  next =>
    calc |q| < (2 : Nat) ^ (Int.log 2 |q| + 1) := Int.lt_zpow_succ_log_self (by norm_num) _
      _ <= 2 ^ (max (Int.log 2 |q| - 52) (-1074) + 53) := power_mono (by omega)

theorem lastPlace_full (q : Rat) : 2 ^ (lastPlace q + 52) <= |q| ∨ lastPlace q = -1074 := by
  unfold lastPlace
  split_ifs with zero
  next => exact .inr rfl
  next =>
    rcases le_or_gt (Int.log 2 |q| - 52) (-1074) with small | large
    next => exact .inr (max_eq_right small)
    next =>
      refine .inl ?_
      rw [max_eq_left large.le, Int.sub_add_cancel]
      exact_mod_cast Int.zpow_log_le_self (b := 2) (by norm_num) (abs_pos.mpr zero)

theorem lastPlace_eq {q : Rat} {e : Int} (full : 2 ^ (e + 52) <= |q| ∨ e = -1074)
    (least : -1074 <= e) (within : |q| < 2 ^ (e + 53)) : lastPlace q = e := by
  have upper := lt_lastPlace q
  have lower := least_lastPlace q
  have above : lastPlace q <= e := by
    rcases lastPlace_full q with bound | same
    next =>
      have := power_lt_iff.mp (bound.trans_lt within)
      omega
    next => omega
  have below : e <= lastPlace q := by
    rcases full with bound | same
    next =>
      have := power_lt_iff.mp (bound.trans_lt upper)
      omega
    next => omega
  omega

@[simp]
theorem lastPlace_neg (q : Rat) : lastPlace (-q) = lastPlace q := by
  simp [lastPlace]

@[simp]
theorem nearest_zero : nearest 0 = 0 := by
  simp [nearest, nearestWhole]

theorem nearest_neg (q : Rat) : nearest (-q) = -nearest q := by
  rw [nearest, nearest, lastPlace_neg, neg_div, nearestWhole_neg, Int.cast_neg, neg_mul]

theorem nearest_nonneg {q : Rat} (nonneg : 0 <= q) : 0 <= nearest q := by
  have whole : 0 <= nearestWhole (q / 2 ^ lastPlace q) := by
    rw [<- nearestWhole_intCast 0]
    exact nearestWhole_mono (by rw [Int.cast_zero]; exact div_nonneg nonneg (power_pos _).le)
  exact mul_nonneg (Int.cast_nonneg whole) (power_pos _).le

theorem abs_nearest (q : Rat) : |nearest q| = nearest |q| := by
  rcases le_total 0 q with nonneg | nonpos
  next => rw [abs_of_nonneg nonneg, abs_of_nonneg (nearest_nonneg nonneg)]
  next =>
    have opposite := nearest_nonneg (neg_nonneg.mpr nonpos)
    rw [nearest_neg] at opposite
    rw [abs_of_nonpos nonpos, nearest_neg, abs_of_nonpos (by linarith)]

/-- A rational that rounding keeps: 53 bits, none of them after the last place of the smallest
double. -/
def Representable (q : Rat) : Prop :=
  ∃ mantissa exponent : Int, |mantissa| < 2 ^ 53 ∧ -1074 <= exponent ∧ q = mantissa * 2 ^ exponent

theorem Representable.neg {q : Rat} : Representable q -> Representable (-q) := by
  rintro ⟨mantissa, exponent, fits, least, rfl⟩
  exact ⟨-mantissa, exponent, by rwa [abs_neg], least, by push_cast; ring⟩

theorem Representable.floor {q : Rat} (representable : Representable q) :
    Representable (⌊q⌋ : Rat) := by
  obtain ⟨mantissa, exponent, fits, least, rfl⟩ := representable
  rcases le_total 0 exponent with whole | fraction
  next =>
    obtain ⟨count, rfl⟩ := Int.eq_ofNat_of_zero_le whole
    have exact : (mantissa : Rat) * 2 ^ (count : Int) = ((mantissa * 2 ^ count : Int) : Rat) := by
      rw [zpow_natCast]
      push_cast
      rfl
    refine ⟨mantissa, count, fits, least, ?_⟩
    rw [exact, Int.floor_intCast]
  next =>
    have scale : (2 : Rat) ^ exponent <= 1 := zpow_le_one_of_nonpos₀ (by norm_num) fraction
    have size : |(mantissa : Rat) * 2 ^ exponent| <= ((|mantissa| : Int) : Rat) := by
      rw [abs_mul, abs_of_pos (power_pos exponent), Int.cast_abs]
      exact mul_le_of_le_one_right (abs_nonneg _) scale
    obtain ⟨lower, upper⟩ := abs_le.mp size
    have below : ⌊(mantissa : Rat) * 2 ^ exponent⌋ <= |mantissa| :=
      Int.cast_le.mp ((Int.floor_le _).trans upper)
    have above : -|mantissa| <= ⌊(mantissa : Rat) * 2 ^ exponent⌋ :=
      Int.le_floor.mpr (by rwa [Int.cast_neg])
    refine ⟨⌊(mantissa : Rat) * 2 ^ exponent⌋, 0, abs_lt.mpr ⟨?_, ?_⟩, by norm_num, by simp⟩ <;>
      omega

theorem nearest_of_representable {q : Rat} (representable : Representable q) : nearest q = q := by
  obtain ⟨mantissa, exponent, fits, least, rfl⟩ := representable
  obtain ⟨e, place⟩ : ∃ e, lastPlace (mantissa * 2 ^ exponent) = e := ⟨_, rfl⟩
  have early : e <= exponent := by
    rcases lastPlace_full (mantissa * 2 ^ exponent) with full | same
    next =>
      have bound : |(mantissa : Rat)| < 2 ^ (53 : Int) := by exact_mod_cast fits
      rw [abs_mul, abs_of_pos (power_pos exponent), place] at full
      have short := full.trans_lt (mul_lt_mul_of_pos_right bound (power_pos exponent))
      rw [<- power_add, power_lt_iff] at short
      omega
    next => omega
  obtain ⟨more, rfl⟩ : ∃ more : Nat, exponent = e + more := ⟨(exponent - e).toNat, by omega⟩
  have whole : (mantissa : Rat) * 2 ^ (e + (more : Int)) / 2 ^ e =
      ((mantissa * 2 ^ more : Int) : Rat) := by
    rw [power_add, zpow_natCast, div_eq_iff (power_pos e).ne']
    push_cast
    ring
  rw [nearest, place, whole, nearestWhole_intCast, power_add, zpow_natCast]
  push_cast
  ring

theorem nearestWhole_lastPlace_le (q : Rat) : nearestWhole (q / 2 ^ lastPlace q) <= 2 ^ 53 := by
  have within := (le_abs_self q).trans_lt (lt_lastPlace q)
  rw [add_comm, power_add, <- div_lt_iff₀ (power_pos _)] at within
  have upper := nearestWhole_mono within.le
  rwa [show (2 : Rat) ^ (53 : Int) = ((2 ^ 53 : Int) : Rat) by norm_num,
    nearestWhole_intCast] at upper

theorem le_nearestWhole_lastPlace {q : Rat} (full : 2 ^ (lastPlace q + 52) <= q) :
    2 ^ 52 <= nearestWhole (q / 2 ^ lastPlace q) := by
  rw [add_comm, power_add, <- le_div_iff₀ (power_pos _)] at full
  have lower := nearestWhole_mono full
  rwa [show (2 : Rat) ^ (52 : Int) = ((2 ^ 52 : Int) : Rat) by norm_num,
    nearestWhole_intCast] at lower

theorem nearest_le_power (q : Rat) : nearest q <= 2 ^ (lastPlace q + 53) := by
  rw [nearest, add_comm, power_add]
  exact mul_le_mul_of_nonneg_right (by exact_mod_cast nearestWhole_lastPlace_le q) (power_pos _).le

theorem power_le_nearest {q : Rat} (full : 2 ^ (lastPlace q + 52) <= q) :
    2 ^ (lastPlace q + 52) <= nearest q := by
  rw [nearest, add_comm, power_add]
  exact mul_le_mul_of_nonneg_right (by exact_mod_cast le_nearestWhole_lastPlace full)
    (power_pos _).le

theorem representable_nearest {q : Rat} (nonneg : 0 <= q) : Representable (nearest q) := by
  have least := least_lastPlace q
  have lower := nearest_nonneg nonneg
  rw [nearest] at lower
  have natural : 0 <= nearestWhole (q / 2 ^ lastPlace q) :=
    Int.cast_nonneg_iff.mp (nonneg_of_mul_nonneg_left lower (power_pos _))
  rcases (nearestWhole_lastPlace_le q).lt_or_eq with short | carried
  next => exact ⟨_, lastPlace q, by rwa [abs_of_nonneg natural], least, rfl⟩
  next =>
    refine ⟨1, 53 + lastPlace q, by norm_num, by omega, ?_⟩
    rw [nearest, carried, power_add]
    norm_num

/-- What is rounded has a mantissa of 53 bits, or the smallest exponent. -/
theorem exists_mantissa {q : Rat} (nonneg : 0 <= q) :
    ∃ mantissa : Nat, nearest q = mantissa * 2 ^ lastPlace (nearest q) ∧ mantissa < 2 ^ 53 ∧
      (2 ^ 52 <= mantissa ∨ lastPlace (nearest q) = -1074) := by
  have kept := nearest_of_representable (representable_nearest nonneg)
  have within := lt_lastPlace (nearest q)
  have filled := lastPlace_full (nearest q)
  rw [abs_of_nonneg (nearest_nonneg nonneg)] at within filled
  rw [nearest] at kept
  have unit := power_pos (lastPlace (nearest q))
  generalize lastPlace (nearest q) = e at *
  generalize nearestWhole (nearest q / 2 ^ e) = whole at *
  rw [<- kept] at within filled ⊢
  have natural : 0 <= whole := by
    have := nearest_nonneg nonneg
    rw [<- kept] at this
    exact Int.cast_nonneg_iff.mp (nonneg_of_mul_nonneg_left this unit)
  obtain ⟨mantissa, rfl⟩ := Int.eq_ofNat_of_zero_le natural
  rw [Int.cast_natCast] at within filled ⊢
  refine ⟨mantissa, rfl, ?_, filled.imp_left fun full => ?_⟩
  next =>
    rw [add_comm, power_add] at within
    exact_mod_cast lt_of_mul_lt_mul_right within unit.le
  next =>
    rw [add_comm, power_add] at full
    exact_mod_cast le_of_mul_le_mul_right full unit

theorem lastPlace_mono {q r : Rat} (order : |q| <= |r|) : lastPlace q <= lastPlace r := by
  rcases lastPlace_full q with full | least
  next =>
    have := power_lt_iff.mp ((full.trans order).trans_lt (lt_lastPlace r))
    omega
  next =>
    have := least_lastPlace r
    omega

theorem nearest_mono_of_nonneg {q r : Rat} (nonneg : 0 <= q) (order : q <= r) :
    nearest q <= nearest r := by
  have magnitudes : |q| <= |r| := abs_le_abs_of_nonneg nonneg order
  rcases (lastPlace_mono magnitudes).lt_or_eq with earlier | same
  next =>
    -- A power of two is between the two.
    have full : 2 ^ (lastPlace r + 52) <= r := by
      rcases lastPlace_full r with full | least
      next => rwa [abs_of_nonneg (nonneg.trans order)] at full
      next =>
        have := least_lastPlace q
        omega
    calc nearest q <= 2 ^ (lastPlace q + 53) := nearest_le_power q
      _ <= 2 ^ (lastPlace r + 52) := power_mono (by omega)
      _ <= nearest r := power_le_nearest full
  next =>
    rw [nearest, nearest, same]
    have wholes : nearestWhole (q / 2 ^ lastPlace r) <= nearestWhole (r / 2 ^ lastPlace r) :=
      nearestWhole_mono (div_le_div_of_nonneg_right order (power_pos _).le)
    exact mul_le_mul_of_nonneg_right (Int.cast_le.mpr wholes) (power_pos _).le

theorem lastPlace_le_nearest {q : Rat} (nonneg : 0 <= q) :
    lastPlace q <= lastPlace (nearest q) := by
  rcases lastPlace_full q with full | least
  next =>
    rw [abs_of_nonneg nonneg] at full
    have := power_lt_iff.mp ((power_le_nearest full).trans_lt
      ((le_abs_self _).trans_lt (lt_lastPlace (nearest q))))
    omega
  next => exact least.trans_le (least_lastPlace _)

theorem nearest_mono {q r : Rat} (order : q <= r) : nearest q <= nearest r := by
  rcases le_total 0 q with nonneg | nonpos
  next => exact nearest_mono_of_nonneg nonneg order
  next =>
    rcases le_total 0 r with above | below
    next =>
      have left := nearest_nonneg (neg_nonneg.mpr nonpos)
      rw [nearest_neg] at left
      exact (neg_nonneg.mp left).trans (nearest_nonneg above)
    next =>
      have opposites := nearest_mono_of_nonneg (neg_nonneg.mpr below) (neg_le_neg order)
      rw [nearest_neg, nearest_neg] at opposites
      exact neg_le_neg_iff.mp opposites

theorem nearest_le {q bound : Rat} (order : q <= bound) (representable : Representable bound) :
    nearest q <= bound :=
  (nearest_mono order).trans_eq (nearest_of_representable representable)

theorem le_nearest {q bound : Rat} (order : bound <= q) (representable : Representable bound) :
    bound <= nearest q :=
  (nearest_of_representable representable).symm.trans_le (nearest_mono order)

theorem abs_nearest_le {q bound : Rat} (order : |q| <= bound)
    (representable : Representable bound) : |nearest q| <= bound := by
  rw [abs_nearest]
  exact nearest_le order representable

/-- The least rational that is rounded to `2 ^ 1024`, halfway from the largest double to it. -/
def limit : Rat := 2 ^ (1024 : Int) - 2 ^ (970 : Int)

theorem limit_eq : limit = (2 ^ (54 : Int) - 1) * 2 ^ (970 : Int) := by
  rw [limit, show (1024 : Int) = 54 + 970 by norm_num, power_add, sub_mul, one_mul]

theorem limit_pos : 0 < limit := by
  rw [limit_eq]
  exact mul_pos (by norm_num) (power_pos 970)

theorem lastPlace_limit : lastPlace limit = 971 := by
  refine lastPlace_eq (.inl ?_) (by norm_num) ?_
  next =>
    rw [abs_of_pos limit_pos, limit_eq, show (971 + 52 : Int) = 53 + 970 by norm_num, power_add]
    exact mul_le_mul_of_nonneg_right (by norm_num) (power_pos 970).le
  next =>
    rw [abs_of_pos limit_pos, limit_eq, show (971 + 53 : Int) = 54 + 970 by norm_num, power_add]
    exact mul_lt_mul_of_pos_right (by norm_num) (power_pos 970)

theorem limit_div : limit / 2 ^ (971 : Int) = (2 ^ 53 - 1 : Int) + 1 / 2 := by
  rw [limit_eq, show (971 : Int) = 1 + 970 by norm_num, power_add,
    mul_div_mul_right _ _ (power_pos 970).ne']
  norm_num

theorem nearest_limit : nearest limit = 2 ^ (1024 : Int) := by
  have fraction : Int.fract (1 / 2 : Rat) = 1 / 2 := Int.fract_eq_self.mpr (by norm_num)
  have tie : nearestWhole (limit / 2 ^ (971 : Int)) = 2 ^ 53 := by
    rw [limit_div, nearestWhole, Int.fract_intCast_add, Int.floor_intCast_add, fraction]
    norm_num
  rw [nearest, lastPlace_limit, tie, show (1024 : Int) = 53 + 971 by norm_num, power_add,
    show ((2 ^ 53 : Int) : Rat) = 2 ^ (53 : Int) by norm_num]

theorem nearestWhole_le {q : Rat} {n : Int} (below : q < n + 1 / 2) : nearestWhole q <= n := by
  rcases lt_trichotomy ⌊q⌋ n with lower | same | upper
  next =>
    have := nearestWhole_le_floor q
    omega
  next =>
    have fraction : 2 * Int.fract q < 1 := by
      rw [Int.fract, same]
      linarith
    rw [nearestWhole, if_pos fraction, same]
  next =>
    have bound : ((n + 1 : Int) : Rat) <= q := Int.le_floor.mp (by omega)
    push_cast at bound
    linarith

theorem nearest_lt_of_lt_limit {q : Rat} (nonneg : 0 <= q) (below : q < limit) :
    nearest q < 2 ^ (1024 : Int) := by
  have places : lastPlace q <= 971 := by
    rw [<- lastPlace_limit]
    exact lastPlace_mono (abs_le_abs_of_nonneg nonneg below.le)
  rcases places.lt_or_eq with early | same
  next =>
    calc nearest q <= 2 ^ (lastPlace q + 53) := nearest_le_power q
      _ < 2 ^ (1024 : Int) := power_lt_iff.mpr (by omega)
  next =>
    have quotient : q / 2 ^ (971 : Int) < (2 ^ 53 - 1 : Int) + 1 / 2 := by
      rw [<- limit_div]
      exact div_lt_div_of_pos_right below (power_pos 971)
    have rounded : (nearestWhole (q / 2 ^ (971 : Int)) : Rat) < 2 ^ (53 : Int) := by
      have whole : nearestWhole (q / 2 ^ (971 : Int)) < 2 ^ 53 := by
        have := nearestWhole_le quotient
        omega
      exact_mod_cast whole
    rw [nearest, same, show (1024 : Int) = 53 + 971 by norm_num, power_add]
    exact mul_lt_mul_of_pos_right rounded (power_pos 971)

theorem abs_nearest_lt_iff {q : Rat} : |nearest q| < 2 ^ (1024 : Int) ↔ |q| < limit := by
  rw [abs_nearest]
  refine ⟨fun small => ?_, nearest_lt_of_lt_limit (abs_nonneg q)⟩
  by_contra above
  have large := nearest_mono (not_lt.mp above)
  rw [nearest_limit] at large
  exact absurd small (not_lt.mpr large)

end SensorAlerting.Number
