import SensorAlerting.Proofs.Time.Spans

set_option autoImplicit false

/-!
What becomes of seconds that are not below nought: which of them make a span, which one of no time,
and which one that leads back before the calendar. More seconds never make a shorter span, so that
two neighbouring doubles tell where each of these begins.
-/

namespace SensorAlerting.Time

open SensorAlerting.Number

section Seconds

variable {x lower upper : Float} {mantissa : Nat} {exponent bound : Int}

theorem spanOf_seconds (finite : isFinite x = true) (nonneg : 0 <= valueOf x) :
    spanOf second (.real x) = checkSpan (spanAt second (valueOf x)) :=
  spanOf_eq (by decide) (by decide) finite nonneg

theorem spanAt_second_mono {p q : Rat} (order : p <= q) : spanAt second p <= spanAt second q :=
  spanAt_mono (by decide) (by decide) order

theorem spanAt_le_iff (neighbours : Neighbours mantissa exponent lower upper)
    (most : spanAt second (valueOf lower) <= bound)
    (least : bound < spanAt second (valueOf upper)) (finite : isFinite x = true) :
    spanAt second (valueOf x) <= bound ↔ valueOf x <= valueOf lower := by
  have apart := neighbours.isFinite_both.2.2.2
  rcases neighbours.le_or_le finite with below | above
  next => exact iff_of_true ((spanAt_second_mono below).trans most) below
  next =>
    have beyond := least.trans_le (spanAt_second_mono above)
    exact iff_of_false (not_le.mpr beyond) (not_le.mpr (apart.trans_le above))

theorem spanAt_of_spanOf {span : Int} (finite : isFinite x = true) (nonneg : 0 <= valueOf x)
    (spanned : spanOf second (.real x) = .ok span) : spanAt second (valueOf x) = span := by
  rw [spanOf_seconds finite nonneg] at spanned
  exact (checkSpan_eq_ok.mp spanned).2.2

theorem valueOf_nonneg (finite : isFinite x = true) (atLeast : 0 <= x) : 0 <= valueOf x := by
  rwa [le_iff_valueOf (by decide +kernel) finite, valueOf_zero] at atLeast

theorem isFinite_of_spanOf {span : Int} (spanned : spanOf second (.real x) = .ok span) :
    isFinite x = true := by
  cases truncated : truncate? x with
  | some whole => exact isFinite_of_truncate? truncated
  | none => simp [spanOf, splitAmount, Quantity.truncate, truncated, bind, Except.bind] at spanned

theorem spanAt_second_nonneg {q : Rat} (nonneg : 0 <= q) : 0 <= spanAt second q :=
  (Int.mul_nonneg (Int.floor_nonneg.mpr nonneg) (by decide)).trans (le_spanAt (by decide) q)

/-- Seconds make a span of at most some length just if they are no more than the lower of two
neighbours, where the lower makes such a span and the upper does not. -/
theorem span_le_iff (neighbours : Neighbours mantissa exponent lower upper) {short long span : Int}
    (most : spanOf second (.real lower) = .ok short)
    (least : spanOf second (.real upper) = .ok long) (between : short <= bound ∧ bound < long)
    (atLeast : 0 <= x) (spanned : spanOf second (.real x) = .ok span) :
    span <= bound ↔ x <= lower := by
  obtain ⟨lowerFinite, upperFinite, lowerNonneg, apart⟩ := neighbours.isFinite_both
  have finite := isFinite_of_spanOf spanned
  rw [<- spanAt_of_spanOf lowerFinite lowerNonneg most,
    <- spanAt_of_spanOf upperFinite (lowerNonneg.trans apart.le) least] at between
  rw [le_iff_valueOf finite lowerFinite,
    <- spanAt_of_spanOf finite (valueOf_nonneg finite atLeast) spanned]
  exact spanAt_le_iff neighbours between.1 between.2 finite

end Seconds

/-- A billion days. -/
def tooManySeconds : Float := 86400000000000

theorem spanOf_isOk_iff {x : Float} (atLeast : 0 <= x) :
    (∃ span, spanOf second (.real x) = .ok span) ↔ x < tooManySeconds := by
  -- The longest span lies between these two, a microsecond less than a billion days.
  have neighbours : Neighbours 5529599999999999 (-6) 86399999999999.98 tooManySeconds :=
    ⟨by decide, by decide +kernel, by decide +kernel⟩
  obtain ⟨lowerFinite, upperFinite, lowerNonneg, apart⟩ := neighbours.isFinite_both
  have upperNonneg := lowerNonneg.trans apart.le
  by_cases finite : isFinite x = true
  next =>
    have most : spanAt second (valueOf 86399999999999.98) <= longestSpan := by
      have spanned : spanOf second (.real 86399999999999.98) = .ok 86399999999999984375 := by
        decide +kernel
      rw [spanAt_of_spanOf lowerFinite lowerNonneg spanned]
      decide
    have least : longestSpan < spanAt second (valueOf tooManySeconds) := by
      have failed : spanOf second (.real tooManySeconds) = .error .tooLarge := by decide +kernel
      rw [spanOf_seconds upperFinite upperNonneg] at failed
      refine not_le.mp fun short => ?_
      rw [checkSpan_of_nonneg (spanAt_second_nonneg upperNonneg) short] at failed
      cases failed
    have nonneg := valueOf_nonneg finite atLeast
    have checked : (∃ span, spanOf second (.real x) = .ok span) ↔
        spanAt second (valueOf x) <= longestSpan := by
      rw [spanOf_seconds finite nonneg]
      refine ⟨fun ⟨span, passed⟩ => (checkSpan_eq_ok.mp passed).2.1, fun short => ?_⟩
      exact ⟨_, checkSpan_of_nonneg (spanAt_second_nonneg nonneg) short⟩
    rw [checked, spanAt_le_iff neighbours most least finite, lt_iff_valueOf finite upperFinite]
    refine ⟨fun below => below.trans_lt apart, fun below => ?_⟩
    exact (neighbours.le_or_le finite).resolve_right (not_le.mpr below)
  next =>
    refine iff_of_false (fun ⟨span, spanned⟩ => finite (isFinite_of_spanOf spanned)) fun below => ?_
    have atMost := le_of_lt_double below
    exact finite (isFinite_of_between (by decide +kernel) upperFinite atLeast atMost)

/-- Up to half a microsecond, seconds make no time at all. -/
theorem span_pos_iff {x : Float} {span : Int} (atLeast : 0 <= x)
    (spanned : spanOf second (.real x) = .ok span) : 0 < span ↔ 5e-7 < x := by
  -- Half a microsecond goes to the even number of them, which is nought.
  have neighbours : Neighbours 4722366482869645 (-73) 5e-7 5.000000000000001e-7 :=
    ⟨by decide, by decide +kernel, by decide +kernel⟩
  have most : spanOf second (.real 5e-7) = .ok 0 := by decide +kernel
  have least : spanOf second (.real 5.000000000000001e-7) = .ok 1 := by decide +kernel
  have empty : span <= 0 ↔ x <= 5e-7 :=
    span_le_iff neighbours most least (by decide) atLeast spanned
  have finite := isFinite_of_spanOf spanned
  have lowerFinite := neighbours.isFinite_both.1
  rw [le_iff_valueOf finite lowerFinite] at empty
  rw [lt_iff_valueOf lowerFinite finite, <- not_le, <- not_le, empty]

theorem span_nonneg {x : Float} {span : Int} (atLeast : 0 <= x)
    (spanned : spanOf second (.real x) = .ok span) : 0 <= span := by
  have finite := isFinite_of_spanOf spanned
  have nonneg := valueOf_nonneg finite atLeast
  rw [<- spanAt_of_spanOf finite nonneg spanned]
  exact spanAt_second_nonneg nonneg

def secondsTo2000 : Float := 63082281600

theorem span_within_iff {x : Float} {span : Int} (atLeast : 0 <= x)
    (spanned : spanOf second (.real x) = .ok span) :
    span <= 946684800 * second - firstWall ↔ x <= secondsTo2000 := by
  have neighbours : Neighbours 8268320813875200 (-17) secondsTo2000 63082281600.00001 :=
    ⟨by decide, by decide +kernel, by decide +kernel⟩
  have most : spanOf second (.real secondsTo2000) = .ok 63082281600000000 := by decide +kernel
  have least : spanOf second (.real 63082281600.00001) = .ok 63082281600000008 := by decide +kernel
  exact span_le_iff neighbours most least (by decide) atLeast spanned

end SensorAlerting.Time
