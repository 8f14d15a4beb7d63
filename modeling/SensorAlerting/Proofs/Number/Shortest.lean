import SensorAlerting.Number.Shortest
import SensorAlerting.Proofs.Number.Quotients

set_option autoImplicit false

/-!
The shortest digits of a double read back as it. What is nearest to a double is an interval around
it, half a place to each side and only a quarter below where the places become finer; the digits
are looked for in this interval, and seventeen of them are enough.
-/

namespace SensorAlerting.Number

open Float.Model UnpackedFloat

theorem nearestWhole_le_of_le {q : Rat} {n : Int} (bound : q <= n + 1 / 2)
    (inside : n % 2 = 1 -> q < n + 1 / 2) : nearestWhole q <= n := by
  rcases bound.lt_or_eq with below | tie
  next => exact nearestWhole_le below
  next =>
    have even : n % 2 = 0 := by
      rcases Int.emod_two_eq_zero_or_one n with even | odd
      next => exact even
      next => exact absurd tie (inside odd).ne
    have floor : ⌊q⌋ = n := by
      rw [tie, Int.floor_eq_iff]
      constructor <;> linarith
    have half : 2 * Int.fract q = 1 := by
      rw [Int.fract, floor, tie]
      ring
    rw [nearestWhole, half, if_neg (lt_irrefl 1), if_neg (lt_irrefl 1), floor, even, add_zero]

theorem nearestWhole_eq {q : Rat} {n : Int} (low : n - 1 / 2 <= q) (high : q <= n + 1 / 2)
    (inside : n % 2 = 1 -> n - 1 / 2 < q ∧ q < n + 1 / 2) : nearestWhole q = n := by
  have above : nearestWhole (-q) <= -n := by
    refine nearestWhole_le_of_le ?_ fun odd => ?_
    next => push_cast; linarith
    next =>
      have := (inside (by omega)).1
      push_cast
      linarith
  rw [nearestWhole_neg] at above
  exact le_antisymm (nearestWhole_le_of_le high fun odd => (inside odd).2) (by omega)

section Around

def isBinade (mantissa : Nat) (exponent : Int) : Bool :=
  mantissa == Nat.pow 2 52 && decide (-1074 < exponent)

/-- How far below a double the numbers begin that it is nearest to, in units of its last place. -/
def slack (mantissa : Nat) (exponent : Int) : Rat :=
  if isBinade mantissa exponent then 1 / 4 else 1 / 2

/-- The numbers that a positive double is nearest to. -/
structure Around (mantissa : Nat) (exponent : Int) (q : Rat) : Prop where
  low : (mantissa - slack mantissa exponent) * 2 ^ exponent <= q
  high : q <= (mantissa + 1 / 2) * 2 ^ exponent
  inside : mantissa % 2 = 1 -> (mantissa - slack mantissa exponent) * 2 ^ exponent < q ∧
    q < (mantissa + 1 / 2) * 2 ^ exponent

variable {mantissa : Nat} {exponent : Int} {q : Rat}

theorem isBinade_iff :
    isBinade mantissa exponent = true ↔ mantissa = 2 ^ 52 ∧ -1074 < exponent := by
  simp [isBinade]

theorem slack_pos (mantissa : Nat) (exponent : Int) : 0 < slack mantissa exponent := by
  unfold slack
  split_ifs <;> norm_num

theorem slack_le (mantissa : Nat) (exponent : Int) : slack mantissa exponent <= 1 / 2 := by
  unfold slack
  split_ifs <;> norm_num

theorem Normal.lt_full (normal : Normal mantissa exponent) : (mantissa : Rat) + 1 <= 2 ^ 53 := by
  exact_mod_cast normal.fits

theorem Around.nearest_below (around : Around mantissa exponent q)
    (normal : Normal mantissa exponent) (later : -1074 < exponent)
    (below : q < 2 ^ (exponent + 52)) : nearest q = mantissa * 2 ^ exponent := by
  have unit := power_pos exponent
  have full : 2 ^ 52 <= mantissa := normal.full.resolve_right later.ne'
  rw [power_add, mul_comm] at below
  have least : mantissa = 2 ^ 52 := by
    by_contra more
    have whole : (2 : Rat) ^ (52 : Int) + 1 <= mantissa := by
      exact_mod_cast (show 2 ^ 52 + 1 <= mantissa by omega)
    have beyond := lt_of_mul_lt_mul_right (around.low.trans_lt below) unit.le
    have := slack_le mantissa exponent
    linarith
  have quarter : slack mantissa exponent = 1 / 4 := if_pos (isBinade_iff.mpr ⟨least, later⟩)
  have halved : (2 : Rat) ^ exponent = 2 * 2 ^ (exponent - 1) := by
    rw [show exponent = 1 + (exponent - 1) by ring, power_add, show 1 + (exponent - 1) - 1 =
      exponent - 1 by ring, zpow_one]
  have finer := power_pos (exponent - 1)
  have low := around.low
  rw [quarter, least, halved] at low
  rw [halved] at below
  push_cast at low
  -- In the finer places the double has a mantissa of 54 bits, and half a place below it counts.
  have place : lastPlace q = exponent - 1 := by
    have positive : 0 <= q := le_trans (by positivity) low
    refine lastPlace_eq (.inl ?_) (by omega) ?_ <;> rw [abs_of_nonneg positive, power_add]
    next =>
      norm_num at low ⊢
      linarith
    next =>
      norm_num at below ⊢
      linarith
  have rounded : nearestWhole (q / 2 ^ (exponent - 1)) = (2 ^ 53 : Int) := by
    refine nearestWhole_eq ?_ ?_ (by norm_num)
    next =>
      rw [le_div_iff₀ finer]
      norm_num at low ⊢
      linarith
    next =>
      rw [div_le_iff₀ finer]
      norm_num at below ⊢
      linarith
  rw [nearest, place, rounded, least, halved]
  push_cast
  ring

theorem Around.nearest (around : Around mantissa exponent q) (normal : Normal mantissa exponent)
    (some : mantissa ≠ 0) : nearest q = mantissa * 2 ^ exponent := by
  have unit := power_pos exponent
  by_cases below : -1074 < exponent ∧ q < 2 ^ (exponent + 52)
  next => exact around.nearest_below normal below.1 below.2
  next =>
    have half := slack_le mantissa exponent
    have nearer : (mantissa - 1 / 2 : Rat) * 2 ^ exponent <=
        (mantissa - slack mantissa exponent) * 2 ^ exponent :=
      mul_le_mul_of_nonneg_right (by linarith) unit.le
    have positive : 0 <= q := by
      have one : (1 : Rat) <= mantissa := by exact_mod_cast Nat.pos_of_ne_zero some
      refine le_trans (mul_nonneg ?_ unit.le) (nearer.trans around.low)
      linarith
    have place : lastPlace q = exponent := by
      refine lastPlace_eq ?_ normal.least ?_ <;> rw [abs_of_nonneg positive]
      next =>
        rcases normal.least.lt_or_eq with later | least
        next => exact .inl (not_lt.mp fun early => below ⟨later, early⟩)
        next => exact .inr least.symm
      next =>
        have fits := normal.lt_full
        calc q <= (mantissa + 1 / 2) * 2 ^ exponent := around.high
          _ < 2 ^ (53 : Int) * 2 ^ exponent := mul_lt_mul_of_pos_right (by norm_num; linarith) unit
          _ = 2 ^ (exponent + 53) := by rw [power_add, mul_comm]
    have rounded : nearestWhole (q / 2 ^ exponent) = (mantissa : Int) := by
      refine nearestWhole_eq ?_ ?_ fun odd => ⟨?_, ?_⟩ <;> rw [Int.cast_natCast]
      next => exact (le_div_iff₀ unit).mpr (nearer.trans around.low)
      next => exact (div_le_iff₀ unit).mpr around.high
      next => exact (lt_div_iff₀ unit).mpr (nearer.trans_lt (around.inside (by omega)).1)
      next => exact (div_lt_iff₀ unit).mpr (around.inside (by omega)).2
    rw [Number.nearest, place, rounded, Int.cast_natCast]

end Around

section Grid

theorem ten_pos (power : Int) : (0 : Rat) < 10 ^ power := zpow_pos (by norm_num) power

theorem ten_add (p r : Int) : (10 : Rat) ^ (p + r) = 10 ^ p * 10 ^ r := zpow_add₀ (by norm_num) p r

theorem ten_mul_toNat (power : Int) :
    (10 : Rat) ^ power * 10 ^ (-power).toNat = 10 ^ power.toNat := by
  rw [<- zpow_natCast, <- zpow_natCast, <- ten_add]
  congr 1
  omega

/-- A quarter of the last place, and a step of a decimal grid, in one unit that divides both. -/
def quarterUnits (exponent power : Int) : Nat :=
  Nat.pow 2 (exponent - 2).toNat * Nat.pow 10 (-power).toNat

def stepUnits (exponent power : Int) : Nat :=
  Nat.pow 2 (-(exponent - 2)).toNat * Nat.pow 10 power.toNat

variable (exponent power : Int) (k count : Nat)

theorem stepUnits_pos : 0 < stepUnits exponent power :=
  Nat.mul_pos (Nat.pow_pos (by norm_num)) (Nat.pow_pos (by norm_num))

theorem units_scale : ∃ scale : Rat, 0 < scale ∧
    (∀ k : Nat, (k : Rat) * 2 ^ (exponent - 2) * scale = (k * quarterUnits exponent power : Nat)) ∧
    ∀ count : Nat,
      (count : Rat) * 10 ^ power * scale = (count * stepUnits exponent power : Nat) := by
  refine ⟨2 ^ (-(exponent - 2)).toNat * 10 ^ (-power).toNat, by positivity, fun k => ?_,
    fun count => ?_⟩
  next =>
    rw [quarterUnits]
    push_cast [Nat.pow_eq]
    rw [<- power_mul_toNat (exponent - 2)]
    ring
  next =>
    rw [stepUnits]
    push_cast [Nat.pow_eq]
    rw [<- ten_mul_toNat power]
    ring

theorem units_le : k * quarterUnits exponent power <= count * stepUnits exponent power ↔
    (k : Rat) * 2 ^ (exponent - 2) <= count * 10 ^ power := by
  obtain ⟨scale, pos, quarters, steps⟩ := units_scale exponent power
  rw [<- mul_le_mul_iff_of_pos_right pos, quarters, steps, Nat.cast_le]

theorem le_units : count * stepUnits exponent power <= k * quarterUnits exponent power ↔
    count * 10 ^ power <= (k : Rat) * 2 ^ (exponent - 2) := by
  obtain ⟨scale, pos, quarters, steps⟩ := units_scale exponent power
  rw [<- mul_le_mul_iff_of_pos_right pos, quarters, steps, Nat.cast_le]

variable {exponent power k count} {mantissa : Nat}

theorem four_quarters (exponent : Int) : (2 : Rat) ^ exponent = 4 * 2 ^ (exponent - 2) := by
  have four : (4 : Rat) = 2 ^ (2 : Int) := by norm_num
  rw [four, <- power_add]
  congr 1
  ring

def fits (mantissa : Nat) (exponent power : Int) (count : Nat) : Bool :=
  let low := (4 * mantissa - if isBinade mantissa exponent then 1 else 2) *
    quarterUnits exponent power
  let high := (4 * mantissa + 2) * quarterUnits exponent power
  let point := count * stepUnits exponent power
  if mantissa % 2 == 0 then decide (low <= point) && decide (point <= high)
  else decide (low < point) && decide (point < high)

theorem fits_iff_around (some : mantissa ≠ 0) :
    fits mantissa exponent power count = true ↔ Around mantissa exponent (count * 10 ^ power) := by
  have lowQuarters : ((4 * mantissa - if isBinade mantissa exponent then 1 else 2 : Nat) : Rat) *
      2 ^ (exponent - 2) = (mantissa - slack mantissa exponent) * 2 ^ exponent := by
    rw [four_quarters exponent, slack]
    split_ifs
    next => rw [Nat.cast_sub (by omega)]; push_cast; ring
    next => rw [Nat.cast_sub (by omega)]; push_cast; ring
  have highQuarters : ((4 * mantissa + 2 : Nat) : Rat) * 2 ^ (exponent - 2) =
      (mantissa + 1 / 2) * 2 ^ exponent := by
    rw [four_quarters exponent]
    push_cast
    ring
  have low := units_le exponent power
    (4 * mantissa - if isBinade mantissa exponent then 1 else 2) count
  have high := le_units exponent power (4 * mantissa + 2) count
  have aboveLow := le_units exponent power
    (4 * mantissa - if isBinade mantissa exponent then 1 else 2) count
  have belowHigh := units_le exponent power (4 * mantissa + 2) count
  rw [lowQuarters] at low aboveLow
  rw [highQuarters] at high belowHigh
  rcases Nat.mod_two_eq_zero_or_one mantissa with even | odd
  next =>
    simp only [fits, even, beq_self_eq_true, if_true, Bool.and_eq_true, decide_eq_true_eq, low,
      high]
    exact ⟨fun ⟨first, last⟩ => ⟨first, last, by omega⟩, fun around => ⟨around.low, around.high⟩⟩
  next =>
    simp only [fits, odd, Nat.reduceBEq, Bool.false_eq_true, if_false, Bool.and_eq_true,
      decide_eq_true_eq, <- not_le, aboveLow, belowHigh]
    simp only [not_le]
    exact ⟨fun inside => ⟨inside.1.le, inside.2.le, fun _ => inside⟩,
      fun around => around.inside odd⟩

theorem gridPoint?_eq (mantissa : Nat) (exponent power : Int) :
    gridPoint? mantissa exponent power (isBinade mantissa exponent) =
      let centre := 4 * mantissa * quarterUnits exponent power
      let below := centre / stepUnits exponent power
      if fits mantissa exponent power below && fits mantissa exponent power (below + 1) then
        some (roundQuotient centre (stepUnits exponent power))
      else if fits mantissa exponent power below then some below
      else if fits mantissa exponent power (below + 1) then some (below + 1)
      else none := rfl

theorem around_of_gridPoint? (some : mantissa ≠ 0)
    (found : gridPoint? mantissa exponent power (isBinade mantissa exponent) = Option.some count) :
    Around mantissa exponent (count * 10 ^ power) := by
  rw [<- fits_iff_around some]
  rw [gridPoint?_eq] at found
  dsimp only at found
  split at found
  next both =>
    obtain ⟨below, above⟩ := (Bool.and_eq_true _ _).mp both
    rw [<- Option.some.inj found, roundQuotient]
    split
    next => exact below
    next =>
      split
      next => exact above
      next =>
        rcases Nat.mod_two_eq_zero_or_one (4 * mantissa * quarterUnits exponent power /
          stepUnits exponent power) with even | odd
        next => rw [even]; exact below
        next => rw [odd]; exact above
  next =>
    split at found
    next below => rw [<- Option.some.inj found]; exact below
    next =>
      split at found
      next above => rw [<- Option.some.inj found]; exact above
      next => cases found

/-- On a grid that is fine enough one of the two points beside a double reads back as it. -/
theorem exists_gridPoint? (normal : Normal mantissa exponent) (some : mantissa ≠ 0)
    (fine : (10 : Rat) ^ power * 10 ^ 16 <= mantissa * 2 ^ exponent) :
    ∃ count, gridPoint? mantissa exponent power (isBinade mantissa exponent) =
      Option.some count := by
  have unit := power_pos exponent
  have least := slack_pos mantissa exponent
  let below := 4 * mantissa * quarterUnits exponent power / stepUnits exponent power
  have size : ((4 * mantissa : Nat) : Rat) * 2 ^ (exponent - 2) = mantissa * 2 ^ exponent := by
    rw [four_quarters exponent]
    push_cast
    ring
  have notAbove : (below : Rat) * 10 ^ power <= mantissa * 2 ^ exponent := by
    rw [<- size, <- le_units]
    exact Nat.div_mul_le_self _ _
  have above : (mantissa : Rat) * 2 ^ exponent <= (below + 1 : Nat) * 10 ^ power := by
    rw [<- size, <- units_le]
    exact ((Nat.div_lt_iff_lt_mul (stepUnits_pos exponent power)).mp (Nat.lt_succ_self below)).le
  rw [gridPoint?_eq]
  dsimp only
  by_contra none
  have neither : ¬ fits mantissa exponent power below = true ∧
      ¬ fits mantissa exponent power (below + 1) = true := by
    constructor <;> intro point <;> refine none ?_ <;> (repeat' split) <;> simp_all [below]
  rw [fits_iff_around some, fits_iff_around some] at neither
  -- Both points are outside the interval, so that a step is at least as long as all of it.
  have early : (below : Rat) * 10 ^ power <=
      (mantissa - slack mantissa exponent) * 2 ^ exponent := by
    by_contra inside
    have low := not_le.mp inside
    have high : (below : Rat) * 10 ^ power < (mantissa + 1 / 2) * 2 ^ exponent := by nlinarith
    exact neither.1 ⟨low.le, high.le, fun _ => ⟨low, high⟩⟩
  have late : (mantissa + 1 / 2) * 2 ^ exponent <= ((below + 1 : Nat) : Rat) * 10 ^ power := by
    by_contra inside
    have high := not_le.mp inside
    have low : (mantissa - slack mantissa exponent) * 2 ^ exponent <
        ((below + 1 : Nat) : Rat) * 10 ^ power := by nlinarith
    exact neither.2 ⟨low.le, high.le, fun _ => ⟨low, high⟩⟩
  have long : (slack mantissa exponent + 1 / 2) * 2 ^ exponent <= 10 ^ power := by
    push_cast at late
    linarith
  have short : (slack mantissa exponent + 1 / 2) * 10 ^ 16 <= mantissa :=
    le_of_mul_le_mul_right (by linarith) unit
  have fits := normal.lt_full
  unfold slack at short
  split at short
  next finer =>
    rw [(isBinade_iff.mp finer).1] at short
    norm_num at short
  next =>
    norm_num at fits
    linarith

end Grid

theorem ten_length_le {n : Nat} (some : n ≠ 0) :
    (10 : Rat) ^ (((Nat.toDigits 10 n).length : Int) - 1) <= n := by
  have positive := Nat.length_toDigits_pos (b := 10) (n := n)
  obtain ⟨more, long⟩ : ∃ more, (Nat.toDigits 10 n).length = more + 1 :=
    ⟨(Nat.toDigits 10 n).length - 1, by omega⟩
  have atLeast : 10 ^ more <= n := by
    rcases Nat.eq_zero_or_pos more with rfl | several
    next => exact Nat.pos_of_ne_zero some
    next =>
      rw [<- not_lt, <- Nat.length_toDigits_le_iff (by norm_num) several]
      omega
  rw [long, Nat.cast_succ, add_sub_cancel_right, zpow_natCast]
  exact_mod_cast atLeast

theorem lt_ten_length (n : Nat) : (n : Rat) < 10 ^ ((Nat.toDigits 10 n).length : Int) := by
  have below := (Nat.length_toDigits_le_iff (n := n) (by norm_num)
    (Nat.length_toDigits_pos (b := 10))).mp le_rfl
  rw [zpow_natCast]
  exact_mod_cast below

theorem decimalPoint_le {n d : Nat} (some : n ≠ 0) (pos : 0 < d) :
    (10 : Rat) ^ (decimalPoint n d - 1) <= n / d := by
  have divisor : (0 : Rat) < d := Nat.cast_pos.mpr pos
  unfold decimalPoint
  generalize guessed :
    ((Nat.toDigits 10 n).length : Int) - ((Nat.toDigits 10 d).length : Int) = guess
  dsimp only
  split_ifs with less
  next =>
    rw [le_div_iff₀ divisor]
    calc (10 : Rat) ^ (guess - 1) * d
        <= 10 ^ (guess - 1) * 10 ^ ((Nat.toDigits 10 d).length : Int) :=
          mul_le_mul_of_nonneg_left (lt_ten_length d).le (ten_pos _).le
      _ = 10 ^ (((Nat.toDigits 10 n).length : Int) - 1) := by
          rw [<- ten_add]
          congr 1
          omega
      _ <= n := ten_length_le some
  next =>
    have scaled : (d : Rat) * 10 ^ guess.toNat <= n * 10 ^ (-guess).toNat := by
      exact_mod_cast not_lt.mp less
    rw [add_sub_cancel_right, le_div_iff₀ divisor]
    refine le_of_mul_le_mul_right (a := (10 : Rat) ^ (-guess).toNat) ?_ (by positivity)
    rw [mul_right_comm, ten_mul_toNat, mul_comm]
    exact scaled

/-- The digits of a positive double are those of a decimal that it is nearest to. -/
theorem shortest_spec {mantissa : Nat} {exponent : Int} (normal : Normal mantissa exponent)
    (some : mantissa ≠ 0) : ∃ count power, shortest mantissa exponent = .ofScaled count power ∧
      nearest (count * 10 ^ power) = mantissa * 2 ^ exponent := by
  have pos : 0 < (magnitude mantissa exponent).2 := Nat.pow_pos (by norm_num)
  have numerator : (magnitude mantissa exponent).1 ≠ 0 :=
    Nat.mul_ne_zero some (Nat.pow_pos (by norm_num)).ne'
  have size : ((magnitude mantissa exponent).1 : Rat) / (magnitude mantissa exponent).2 =
      mantissa * 2 ^ exponent := by
    have scale : (0 : Rat) < 2 ^ (-exponent).toNat := by positivity
    rw [magnitude, div_eq_iff (by push_cast [Nat.pow_eq]; exact scale.ne'), mul_assoc]
    push_cast [Nat.pow_eq]
    rw [power_mul_toNat]
  let point := decimalPoint (magnitude mantissa exponent).1 (magnitude mantissa exponent).2
  have reached : (10 : Rat) ^ (point - 1) <= mantissa * 2 ^ exponent :=
    size ▸ decimalPoint_le numerator pos
  have fine : (10 : Rat) ^ (point - 17) * 10 ^ 16 <= mantissa * 2 ^ exponent := by
    rw [show (10 : Rat) ^ 16 = 10 ^ (16 : Int) by norm_num, <- ten_add]
    convert reached using 2
    ring
  obtain ⟨last, lastPoint⟩ := exists_gridPoint? normal some fine
  let found := (List.range 17).findSome? fun (shorter : Nat) =>
    (gridPoint? mantissa exponent (point - ((shorter : Int) + 1))
      (isBinade mantissa exponent)).map fun count =>
        Digits.ofScaled count (point - ((shorter : Int) + 1))
  have same : shortest mantissa exponent = found.getD
    (.ofScaled (roundQuotient (magnitude mantissa exponent).1 (magnitude mantissa exponent).2) 0) :=
    rfl
  cases outcome : found with
  | none =>
    have missed := List.findSome?_eq_none_iff.mp outcome 16 (by simp)
    rw [show point - (((16 : Nat) : Int) + 1) = point - 17 by norm_num, lastPoint] at missed
    cases missed
  | some digits =>
    obtain ⟨shorter, -, hit⟩ := List.exists_of_findSome?_eq_some outcome
    obtain ⟨count, gridPoint, rfl⟩ := Option.map_eq_some_iff.mp hit
    refine ⟨count, point - ((shorter : Int) + 1), by rw [same, outcome]; rfl, ?_⟩
    exact (around_of_gridPoint? some gridPoint).nearest normal some

end SensorAlerting.Number
