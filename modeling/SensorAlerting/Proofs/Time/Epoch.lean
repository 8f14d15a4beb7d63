import SensorAlerting.Proofs.Number.Truncation
import SensorAlerting.Proofs.Time.Spans
import SensorAlerting.Time.Epoch

set_option autoImplicit false

/-!
Which seconds since 1970 no system's clock can show. Rounding a fraction to microseconds carries
into the seconds, but never across the ends of a system's calendar: there are no fractions there.
It carries at most one second, so that what is shown is always a moment of the calendar.
-/

namespace SensorAlerting.Time

open SensorAlerting.Number

def IsBeyondSystem (seconds : Int) : Prop :=
  seconds < -67768040609740800 ∨ 67768036191676799 < seconds

instance : DecidablePred IsBeyondSystem := fun _ => inferInstanceAs (Decidable (_ ∨ _))

def AreBeyondSystem : Quantity -> Prop
  | .whole seconds => IsBeyondSystem seconds
  | .real seconds => isInfinite seconds = true ∨ ∃ whole ∈ truncate? seconds, IsBeyondSystem whole

instance : DecidablePred AreBeyondSystem
  | .whole seconds => inferInstanceAs (Decidable (IsBeyondSystem seconds))
  | .real seconds => inferInstanceAs (Decidable (_ ∨ ∃ whole ∈ truncate? seconds, _))

def EpochFault.IsBeyond (fault : EpochFault) : Prop := fault = .tooLarge ∨ fault = .beyondSystem

theorem ofWholeSeconds_beyond (seconds micros : Int) :
    (∃ fault, ofWholeSeconds seconds micros = .error fault ∧ fault.IsBeyond) ↔
      IsBeyondSystem seconds := by
  unfold ofWholeSeconds IsBeyondSystem
  split
  next far =>
    simp only [Bool.or_eq_true, decide_eq_true_eq] at far
    simp only [Except.error.injEq, exists_eq_left', EpochFault.IsBeyond, true_or, true_iff]
    omega
  next =>
    split
    next beyond =>
      simp only [Bool.or_eq_true, decide_eq_true_eq] at beyond
      simpa [EpochFault.IsBeyond] using beyond
    next within =>
      simp only [Bool.or_eq_true, decide_eq_true_eq] at within
      split <;> simp [EpochFault.IsBeyond, within]

def fractionMicros (seconds : Float) (whole : Int) : Int :=
  roundSum 0 ((seconds - (ofInt? whole).getD 0) * 1000000)

/-- At each end of a system's calendar there is a single double, and it has no fraction. -/
theorem fractionMicros_end {seconds : Float} {whole : Int}
    (truncated : truncate? seconds = some whole)
    (atEnd : whole = -67768040609740800 ∨ whole = 67768036191676800) :
    fractionMicros seconds whole = 0 := by
  obtain ⟨-, bits⟩ := largeBits_of_truncate? truncated (by omega)
  cases atEnd with
  | inl first =>
    have same : seconds = (ofInt? (-67768040609740800)).getD 0 := by
      refine eq_of_toBits (UInt64.toNat_inj.mp ?_)
      rw [bits (by omega), first]
      decide +kernel
    rw [same, first]
    decide +kernel
  | inr last =>
    have same : seconds = (ofInt? 67768036191676800).getD 0 := by
      refine eq_of_toBits (UInt64.toNat_inj.mp ?_)
      rw [bits (by omega), last]
      decide +kernel
    rw [same, last]
    decide +kernel

theorem isBeyondSystem_carried {seconds : Float} {whole carried : Int}
    (truncated : truncate? seconds = some whole)
    (carry : carried = whole ∨ fractionMicros seconds whole ≠ 0 ∧
      (carried = whole + 1 ∨ carried = whole - 1)) :
    IsBeyondSystem carried ↔ IsBeyondSystem whole := by
  -- A second more or less only matters at the ends, where nothing is carried.
  cases carry with
  | inl same => rw [same]
  | inr carry =>
    obtain ⟨fraction, next⟩ := carry
    have notFirst : whole ≠ -67768040609740800 :=
      fun first => fraction (fractionMicros_end truncated (.inl first))
    have notLast : whole ≠ 67768036191676800 :=
      fun last => fraction (fractionMicros_end truncated (.inr last))
    unfold IsBeyondSystem
    by_cases large : 2 ^ 55 <= whole.natAbs
    next =>
      have eights := (largeBits_of_truncate? truncated large).eights
      omega
    next => omega

theorem isInfinite_of_truncate? {x : Float} {whole : Int} (truncated : truncate? x = some whole) :
    isInfinite x = false := by
  unfold truncate? at truncated
  unfold isInfinite
  split at truncated
  next read => rw [read]
  next => cases truncated

theorem isUndefined_of_truncate?_none {x : Float} (unbounded : truncate? x = none) :
    isUndefined x = !isInfinite x := by
  unfold truncate? at unbounded
  unfold isUndefined isInfinite
  cases read : parts x <;> simp_all

/-- When seconds fail to be a moment because no system's clock shows them. -/
theorem ofEpoch_beyond (amount : Quantity) :
    (∃ fault, ofEpoch amount = .error fault ∧ fault.IsBeyond) ↔ AreBeyondSystem amount := by
  cases amount with
  | whole seconds => exact ofWholeSeconds_beyond seconds 0
  | real seconds =>
    cases truncated : truncate? seconds with
    | none =>
      simp only [ofEpoch, AreBeyondSystem, truncated, isUndefined_of_truncate?_none truncated]
      cases isInfinite seconds <;> simp [EpochFault.IsBeyond]
    | some whole =>
      have finite := isInfinite_of_truncate? truncated
      have carried : ∀ carried micros, (carried = whole ∨ fractionMicros seconds whole ≠ 0 ∧
            (carried = whole + 1 ∨ carried = whole - 1)) ->
          ((∃ fault, ofWholeSeconds carried micros = .error fault ∧ fault.IsBeyond) ↔
            IsBeyondSystem whole) := by
        intro carried micros carry
        rw [ofWholeSeconds_beyond, isBeyondSystem_carried truncated carry]
      simp only [ofEpoch, AreBeyondSystem, truncated, finite, Bool.false_eq_true, false_or,
        Option.mem_some, exists_eq_left']
      split
      next up => exact carried _ _ (.inr ⟨by unfold fractionMicros; omega, .inl rfl⟩)
      next =>
        split
        next down => exact carried _ _ (.inr ⟨by unfold fractionMicros; omega, .inr rfl⟩)
        next => exact carried _ _ (.inl rfl)

section Moments

theorem fractionMicros_bounds {seconds : Float} {whole : Int}
    (truncated : truncate? seconds = some whole) :
    -1000000 <= fractionMicros seconds whole ∧ fractionMicros seconds whole <= 1000000 := by
  obtain ⟨near, cut, converted, cutFinite, cutValue⟩ := truncate?_spec truncated
  rw [abs_lt, <- cutValue] at near
  have above : ((-1 : Int) : Rat) <= valueOf seconds - valueOf cut := by exact_mod_cast near.1.le
  have below : valueOf seconds - valueOf cut <= ((1 : Int) : Rat) := by exact_mod_cast near.2.le
  obtain ⟨restFinite, restAbove, restBelow⟩ :=
    between_whole (isNearest_sub (isFinite_of_truncate? truncated) cutFinite) above below
      (by decide) (by decide)
  have read : parts 1000000 = .finite false 8589934592000000 (-33) := by decide +kernel
  have million : valueOf 1000000 = 1000000 := (valueOf_of_parts read).trans (by norm_num)
  have product := isNearest_mul restFinite (show isFinite 1000000 = true by rw [isFinite, read])
  rw [million] at product
  push_cast at restAbove restBelow
  have least : ((-1000000 : Int) : Rat) <= valueOf (seconds - cut) * 1000000 := by
    push_cast
    linarith
  have most : valueOf (seconds - cut) * 1000000 <= ((1000000 : Int) : Rat) := by
    push_cast
    linarith
  obtain ⟨finite, lower, upper⟩ := between_whole product least most (by decide) (by decide)
  have first := nearestWhole_mono lower
  have last := nearestWhole_mono upper
  rw [nearestWhole_intCast] at first last
  rw [fractionMicros, converted, Option.getD_some, roundSum_eq 0 finite, Int.cast_zero, zero_add]
  exact ⟨first, last⟩

theorem ofWholeSeconds_spec {seconds micros : Int} {moment : Moment}
    (shown : ofWholeSeconds seconds micros = .ok moment) (started : 0 <= micros)
    (short : micros < 1000000) : moment.offset = some 0 ∧ inCalendar moment.wall = true := by
  unfold ofWholeSeconds at shown
  split at shown
  next => cases shown
  next =>
    split at shown
    next => cases shown
    next =>
      split at shown
      next within =>
        obtain rfl := Except.ok.inj shown
        refine ⟨rfl, ?_⟩
        rw [inCalendar_iff] at within ⊢
        simp only [universal, second] at within ⊢
        omega
      next => cases shown

theorem ofEpoch_spec {amount : Quantity} {moment : Moment} (shown : ofEpoch amount = .ok moment) :
    moment.offset = some 0 ∧ inCalendar moment.wall = true := by
  cases amount with
  | whole seconds => exact ofWholeSeconds_spec shown (by decide) (by decide)
  | real seconds =>
    cases truncated : truncate? seconds with
    | none => simp [ofEpoch, truncated] at shown
    | some whole =>
      have bounds := fractionMicros_bounds truncated
      rw [fractionMicros] at bounds
      simp only [ofEpoch, truncated] at shown
      split at shown
      next => exact ofWholeSeconds_spec shown (by omega) (by omega)
      next =>
        split at shown
        next => exact ofWholeSeconds_spec shown (by omega) (by omega)
        next => exact ofWholeSeconds_spec shown (by omega) (by omega)

end Moments

end SensorAlerting.Time
