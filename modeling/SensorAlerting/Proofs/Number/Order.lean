import SensorAlerting.Proofs.Number.Arithmetic

set_option autoImplicit false

namespace SensorAlerting.Number

open Float.Model UnpackedFloat

theorem Normal.lt_of_exponent_lt {m n : Nat} {e f : Int} (left : Normal m e) (right : Normal n f)
    (earlier : e < f) : (m : Rat) * 2 ^ e < n * 2 ^ f := by
  have full : 2 ^ 52 <= n := right.full.resolve_right (by have := left.least; omega)
  have short : (m : Rat) < 2 ^ (53 : Int) := by exact_mod_cast left.fits
  have long : (2 : Rat) ^ (52 : Int) <= n := by exact_mod_cast full
  calc (m : Rat) * 2 ^ e < 2 ^ (53 : Int) * 2 ^ e := mul_lt_mul_of_pos_right short (power_pos e)
    _ = 2 ^ (53 + e) := (power_add _ _).symm
    _ <= 2 ^ (52 + f) := power_mono (by omega)
    _ = 2 ^ (52 : Int) * 2 ^ f := power_add _ _
    _ <= n * 2 ^ f := mul_le_mul_of_nonneg_right long (power_pos f).le

theorem compare_neg (left right : Rat) :
    Ord.compare (-left) (-right) = (Ord.compare left right).swap := by
  rcases lt_trichotomy left right with below | rfl | above
  next =>
    rw [compare_lt_iff_lt.mpr below, compare_gt_iff_gt.mpr (neg_lt_neg below)]
    rfl
  next =>
    rw [compare_eq_iff_eq.mpr rfl, compare_eq_iff_eq.mpr rfl]
    rfl
  next =>
    rw [compare_gt_iff_gt.mpr above, compare_lt_iff_lt.mpr (neg_lt_neg above)]
    rfl

theorem compare_scaled {m n : Nat} {unit : Rat} (pos : 0 < unit) :
    Ord.compare m n = Ord.compare ((m : Rat) * unit) (n * unit) := by
  rcases lt_trichotomy m n with below | rfl | above
  next =>
    rw [compare_lt_iff_lt.mpr below,
      compare_lt_iff_lt.mpr (mul_lt_mul_of_pos_right (Nat.cast_lt.mpr below) pos)]
  next => rw [compare_eq_iff_eq.mpr rfl, compare_eq_iff_eq.mpr rfl]
  next =>
    rw [compare_gt_iff_gt.mpr above,
      compare_gt_iff_gt.mpr (mul_lt_mul_of_pos_right (Nat.cast_lt.mpr above) pos)]

/-- In normal form exponents come first, then mantissas. -/
theorem Normal.compare {m n : Nat} {e f : Int} (left : Normal m e) (right : Normal n f) :
    (Ord.compare e f).then (Ord.compare m n) = Ord.compare ((m : Rat) * 2 ^ e) (n * 2 ^ f) := by
  rcases lt_trichotomy e f with earlier | rfl | later
  next =>
    rw [compare_lt_iff_lt.mpr earlier, compare_lt_iff_lt.mpr (left.lt_of_exponent_lt right earlier)]
    rfl
  next =>
    rw [compare_eq_iff_eq.mpr rfl]
    exact compare_scaled (power_pos e)
  next =>
    rw [compare_gt_iff_gt.mpr later, compare_gt_iff_gt.mpr (right.lt_of_exponent_lt left later)]
    rfl

theorem compare_unpacked (s t : Sign) {m n : Nat} {e f : Int} (left : Normal m e)
    (right : Normal n f) :
    UnpackedFloat.compare (unpacked s m e) (unpacked t n f) =
      some (Ord.compare (withSign s (m * 2 ^ e)) (withSign t (n * 2 ^ f))) := by
  have units := power_pos e
  have unit := power_pos f
  -- Noughts are told apart from the rest first, whatever their signs; signs decide next.
  by_cases first : m = 0
  next =>
    subst first
    rw [Nat.cast_zero, zero_mul, withSign_zero, unpacked_zero]
    by_cases second : n = 0
    next =>
      subst second
      rw [Nat.cast_zero, zero_mul, withSign_zero, unpacked_zero, compare_eq_iff_eq.mpr rfl]
      rfl
    next =>
      have other : (0 : Rat) < n := Nat.cast_pos.mpr (Nat.pos_of_ne_zero second)
      rw [unpacked_pos second]
      cases t with
      | positive =>
        rw [compare_lt_iff_lt.mpr (show 0 < withSign .positive _ from mul_pos other unit)]
        rfl
      | negative =>
        rw [compare_gt_iff_gt.mpr (show withSign .negative _ < 0 from
          neg_neg_of_pos (mul_pos other unit))]
        rfl
  next =>
    have one : (0 : Rat) < m := Nat.cast_pos.mpr (Nat.pos_of_ne_zero first)
    rw [unpacked_pos first]
    by_cases second : n = 0
    next =>
      subst second
      rw [Nat.cast_zero, zero_mul, withSign_zero, unpacked_zero]
      cases s with
      | positive =>
        rw [compare_gt_iff_gt.mpr (show 0 < withSign .positive _ from mul_pos one units)]
        rfl
      | negative =>
        rw [compare_lt_iff_lt.mpr (show withSign .negative _ < 0 from
          neg_neg_of_pos (mul_pos one units))]
        rfl
    next =>
      have other : (0 : Rat) < n := Nat.cast_pos.mpr (Nat.pos_of_ne_zero second)
      have positives := mul_pos one units
      have others := mul_pos other unit
      rw [unpacked_pos second]
      cases s <;> cases t
      -- Of two negative numbers the one of larger size is the smaller.
      next =>
        change some (Ordering.swap _) = some (Ord.compare (-_) (-_))
        rw [left.compare right, compare_neg]
      next =>
        rw [compare_lt_iff_lt.mpr (show withSign .negative _ < withSign .positive _ from
          (neg_neg_of_pos positives).trans others)]
        rfl
      next =>
        rw [compare_gt_iff_gt.mpr (show withSign .negative _ < withSign .positive _ from
          (neg_neg_of_pos others).trans positives)]
        rfl
      next => exact congrArg some (left.compare right)

section Order

variable {x y : Float}

theorem compare_finite (left : isFinite x = true) (right : isFinite y = true) :
    UnpackedFloat.compare x.toModel.unpack y.toModel.unpack =
      some (Ord.compare (valueOf x) (valueOf y)) := by
  obtain ⟨s, m, e, first⟩ := exists_form left
  obtain ⟨t, n, f, second⟩ := exists_form right
  rw [first.unpack, second.unpack, first.value, second.value]
  exact compare_unpacked s t first.normal second.normal

theorem lt_iff_valueOf (left : isFinite x = true) (right : isFinite y = true) :
    x < y ↔ valueOf x < valueOf y := by
  rw [lt_iff_unpacked, UnpackedFloat.lt, compare_finite left right, <- compare_lt_iff_lt]
  simp

theorem le_iff_valueOf (left : isFinite x = true) (right : isFinite y = true) :
    x <= y ↔ valueOf x <= valueOf y := by
  rw [le_iff_unpacked, UnpackedFloat.le, compare_finite left right, <- compare_le_iff_le]
  exact Ordering.isLE_iff_ne_gt

theorem le_of_lt_double (below : x < y) : x <= y := by
  rw [lt_iff_unpacked, UnpackedFloat.lt] at below
  rw [le_iff_unpacked, UnpackedFloat.le, eq_of_beq below]
  rfl

theorem beq_iff_valueOf (left : isFinite x = true) (right : isFinite y = true) :
    (x == y) = true ↔ valueOf x = valueOf y := by
  change (UnpackedFloat.compare x.toModel.unpack y.toModel.unpack == some .eq) = true ↔ _
  rw [compare_finite left right, <- compare_eq_iff_eq]
  simp

end Order

theorem bits_of_infinite {x : Float} {negative : Bool} (read : parts x = .infinite negative) :
    ∃ sign, x.toBits.toNat = signBits sign + infinityBits := by
  have bound := x.toBits.toNat_lt
  simp only [parts, beq_iff_eq, Nat.pow_eq] at read
  split at read
  next full =>
    split at read
    next none =>
      by_cases high : x.toBits.toNat < 2 ^ 63
      next =>
        refine ⟨.positive, ?_⟩
        change _ = 0 + 2047 * 2 ^ 52
        omega
      next =>
        refine ⟨.negative, ?_⟩
        change _ = 2 ^ 63 + 2047 * 2 ^ 52
        omega
    next => cases read
  next => split at read <;> cases read

theorem eq_of_infinite {x : Float} {negative : Bool} (read : parts x = .infinite negative) :
    x = if negative then -positiveInfinity else positiveInfinity := by
  obtain ⟨sign, bits⟩ := bits_of_infinite read
  rw [parts_of_infinityBits bits] at read
  obtain rfl : isNegative sign = negative := Parts.infinite.inj read
  refine eq_of_toBits (UInt64.toNat_inj.mp (bits.trans ?_))
  cases sign <;> rfl

theorem isFinite_of_between {x lower upper : Float} (first : isFinite lower = true)
    (last : isFinite upper = true) (low : lower <= x) (high : x <= upper) :
    isFinite x = true := by
  have number := not_isUndefined_of_le low
  cases read : parts x with
  | undefined => simp [isUndefined, read] at number
  | finite => simp [isFinite, read]
  | infinite negative =>
    obtain ⟨sign, bits⟩ := bits_of_infinite read
    have unpack : x.toModel.unpack = .infinity sign := unpack_infinity bits
    obtain ⟨s, m, e, form⟩ := exists_form first
    obtain ⟨t, n, f, other⟩ := exists_form last
    rw [le_iff_unpacked, unpack, form.unpack] at low
    rw [le_iff_unpacked, unpack, other.unpack] at high
    cases sign with
    | positive =>
      rcases unpacked_cases t n f with same | ⟨_, same⟩ <;> rw [same] at high <;> cases high
    | negative =>
      rcases unpacked_cases s m e with same | ⟨_, same⟩ <;> rw [same] at low <;> cases low

theorem Representable.next_le {q : Rat} {mantissa : Nat} {exponent : Int}
    (representable : Representable q) (full : 2 ^ 52 <= mantissa)
    (above : (mantissa : Rat) * 2 ^ exponent < q) :
    ((mantissa + 1 : Nat) : Rat) * 2 ^ exponent <= q := by
  obtain ⟨count, place, fits, -, rfl⟩ := representable
  have unit := power_pos exponent
  rcases lt_or_ge place exponent with early | late
  next =>
    have few : (count : Rat) < 2 ^ (53 : Int) := by exact_mod_cast (abs_lt.mp fits).2
    have many : (2 : Rat) ^ (52 : Int) <= mantissa := by exact_mod_cast full
    have below : (count : Rat) * 2 ^ place <= mantissa * 2 ^ exponent :=
      calc (count : Rat) * 2 ^ place <= 2 ^ (53 : Int) * 2 ^ place :=
            mul_le_mul_of_nonneg_right few.le (power_pos place).le
        _ = 2 ^ (53 + place) := (power_add 53 place).symm
        _ <= 2 ^ (52 + exponent) := power_mono (by omega)
        _ = 2 ^ (52 : Int) * 2 ^ exponent := power_add 52 exponent
        _ <= mantissa * 2 ^ exponent := mul_le_mul_of_nonneg_right many unit.le
    exact absurd above (not_lt.mpr below)
  next =>
    obtain ⟨more, rfl⟩ : ∃ more : Nat, place = exponent + more :=
      ⟨(place - exponent).toNat, by omega⟩
    have whole : (count : Rat) * 2 ^ (exponent + (more : Int)) =
        ((count * 2 ^ more : Int) : Rat) * 2 ^ exponent := by
      rw [power_add, zpow_natCast]
      push_cast
      ring
    rw [whole] at above ⊢
    have next := (mul_lt_mul_iff_left₀ unit).mp above
    refine mul_le_mul_of_nonneg_right ?_ unit.le
    exact_mod_cast next

/-- Two doubles with none between them. -/
structure Neighbours (mantissa : Nat) (exponent : Int) (lower upper : Float) : Prop where
  full : 2 ^ 52 <= mantissa
  readsLower : parts lower = .finite false mantissa exponent
  readsUpper : parts upper = .finite false (mantissa + 1) exponent

theorem Neighbours.le_or_le {mantissa : Nat} {exponent : Int} {x lower upper : Float}
    (neighbours : Neighbours mantissa exponent lower upper) (finite : isFinite x = true) :
    valueOf x <= valueOf lower ∨ valueOf upper <= valueOf x := by
  rw [valueOf_of_parts neighbours.readsLower, valueOf_of_parts neighbours.readsUpper]
  refine (le_or_gt _ _).imp_right fun above => ?_
  exact (representable_valueOf finite).next_le neighbours.full above

theorem Neighbours.isFinite_both {mantissa : Nat} {exponent : Int} {lower upper : Float}
    (neighbours : Neighbours mantissa exponent lower upper) :
    isFinite lower = true ∧ isFinite upper = true ∧
      0 <= valueOf lower ∧ valueOf lower < valueOf upper := by
  have unit := power_pos exponent
  rw [isFinite, isFinite, valueOf_of_parts neighbours.readsLower,
    valueOf_of_parts neighbours.readsUpper, neighbours.readsLower, neighbours.readsUpper]
  refine ⟨rfl, rfl, by positivity, (mul_lt_mul_iff_left₀ unit).mpr ?_⟩
  exact_mod_cast Nat.lt_succ_self mantissa

end SensorAlerting.Number
