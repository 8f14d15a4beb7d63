import Mathlib.Data.List.Induction
import Mathlib.Tactic.Ring
import SensorAlerting.Number.Text
import SensorAlerting.Text.Digit

set_option autoImplicit false

namespace SensorAlerting.Text

open SensorAlerting.Number

theorem digitChar_spec : ∀ digit < 10, isAsciiDigit (Nat.digitChar digit) = true ∧
    (Nat.digitChar digit).toNat = digit + 48 ∧ digitValue? (Nat.digitChar digit) = some digit := by
  decide

section Value

theorem digitsValue_snoc (digits : List Char) (digit : Char) :
    digitsValue (digits ++ [digit]) = 10 * digitsValue digits + (digitValue? digit).getD 0 := by
  simp [digitsValue]

theorem digitsValue_append (digits more : List Char) :
    digitsValue (digits ++ more) = digitsValue digits * 10 ^ more.length + digitsValue more := by
  induction more using List.reverseRecOn with
  | nil => simp [digitsValue]
  | append_singleton more digit ih =>
    rw [<- List.append_assoc, digitsValue_snoc, digitsValue_snoc, ih, List.length_append,
      List.length_singleton]
    ring

theorem digitsValue_zeros (count : Nat) : digitsValue (zeros count) = 0 := by
  induction count with
  | zero => rfl
  | succ count ih =>
    rw [zeros, List.replicate_succ', digitsValue_snoc]
    rw [zeros] at ih
    rw [ih]
    rfl

theorem digitsValue_zeros_append (count : Nat) (digits : List Char) :
    digitsValue (zeros count ++ digits) = digitsValue digits := by
  rw [digitsValue_append, digitsValue_zeros, Nat.zero_mul, Nat.zero_add]

end Value

section Written

variable {value : Nat}

theorem natChars_of_lt {digit : Nat} (small : digit < 10) :
    natChars digit = [Nat.digitChar digit] := Nat.toDigits_of_lt_base small

theorem natChars_of_le (large : 10 <= value) :
    natChars value = natChars (value / 10) ++ [Nat.digitChar (value % 10)] := by
  have split := Nat.toDigits_append_toDigits (b := 10) (n := value / 10) (d := value % 10)
    (by decide) (by omega) (Nat.mod_lt _ (by decide))
  rw [Nat.div_add_mod] at split
  rw [natChars, <- split, Nat.toDigits_of_lt_base (Nat.mod_lt _ (by decide))]
  rfl

theorem digitsValue_natChars (value : Nat) : digitsValue (natChars value) = value := by
  induction value using Nat.strongRecOn with
  | ind value ih =>
    by_cases small : value < 10
    next =>
      rw [natChars_of_lt small, <- List.nil_append [_], digitsValue_snoc,
        (digitChar_spec value small).2.2]
      simp [digitsValue]
    next =>
      have isValue := (digitChar_spec (value % 10) (Nat.mod_lt _ (by decide))).2.2
      rw [natChars_of_le (Nat.le_of_not_lt small), digitsValue_snoc, ih _ (by omega), isValue,
        Option.getD_some, Nat.div_add_mod]

theorem isAsciiDigit_of_mem_natChars {letter : Char} (member : letter ∈ natChars value) :
    isAsciiDigit letter = true := by
  induction value using Nat.strongRecOn with
  | ind value ih =>
    by_cases small : value < 10
    next =>
      rw [natChars_of_lt small, List.mem_singleton] at member
      rw [member]
      exact (digitChar_spec value small).1
    next =>
      rw [natChars_of_le (Nat.le_of_not_lt small), List.mem_append, List.mem_singleton] at member
      rcases member with earlier | rfl
      next => exact ih _ (by omega) earlier
      next => exact (digitChar_spec (value % 10) (Nat.mod_lt _ (by decide))).1

theorem digitChar_ne_zero : ∀ digit < 10, digit ≠ 0 -> Nat.digitChar digit ≠ '0' := by
  decide

theorem exists_first_natChars (some : value ≠ 0) :
    ∃ digit rest, natChars value = digit :: rest ∧ digit ≠ '0' := by
  induction value using Nat.strongRecOn with
  | ind value ih =>
    by_cases small : value < 10
    next => exact ⟨_, [], natChars_of_lt small, digitChar_ne_zero value small some⟩
    next =>
      obtain ⟨digit, rest, first, other⟩ := ih (value / 10) (by omega) (by omega)
      exact ⟨digit, rest ++ [Nat.digitChar (value % 10)],
        by rw [natChars_of_le (Nat.le_of_not_lt small), first, List.cons_append], other⟩

end Written

end SensorAlerting.Text
