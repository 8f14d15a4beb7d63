import Mathlib.Tactic.SplitIfs
import SensorAlerting.Json.Reader
import SensorAlerting.Json.Writer

set_option autoImplicit false

/-!
Strings in JSON are read as they were written. A character is written as one unit of sixteen bits or
as two that form a pair, and no character is one of the units that pairs are formed of.
-/

namespace SensorAlerting.Json

open SensorAlerting.Text

section Hexadecimal

theorem hexDigits_succ {width : Nat} (positive : 0 < width) (code : Nat) :
    hexDigits (width + 1) code = hexDigits width (code / 16) ++ [Nat.digitChar (code % 16)] := by
  unfold hexDigits
  by_cases small : code < 16
  next =>
    have none : code / 16 = 0 := Nat.div_eq_of_lt small
    have noughts : List.replicate (width - 1) '0' ++ ['0'] = List.replicate width '0' := by
      rw [<- List.replicate_succ', Nat.sub_add_cancel positive]
    rw [none, Nat.toDigits_of_lt_base small, Nat.toDigits_of_lt_base (by decide : 0 < 16),
      Nat.mod_eq_of_lt small]
    simp only [List.length_singleton, Nat.add_sub_cancel]
    rw [<- noughts]
    rfl
  next =>
    have split := Nat.toDigits_append_toDigits (b := 16) (n := code / 16) (d := code % 16)
      (by decide) (by omega) (Nat.mod_lt _ (by decide))
    rw [Nat.div_add_mod, Nat.toDigits_of_lt_base (Nat.mod_lt code (by decide))] at split
    dsimp only
    rw [<- split, List.length_append, List.length_singleton, Nat.add_sub_add_right,
      List.append_assoc]

theorem hexValue?_digitChar : ∀ digit < 16, hexValue? (Nat.digitChar digit) = some digit := by
  decide

theorem hexDigits_four {code : Nat} (small : code < 0x10000) : ∃ a b c d,
    hexDigits 4 code = [a, b, c, d] ∧ unit? a b c d = some code := by
  have first : hexDigits 1 (code / 16 / 16 / 16) = [Nat.digitChar (code / 16 / 16 / 16)] := by
    rw [hexDigits, Nat.toDigits_of_lt_base (by omega)]
    rfl
  have digits : hexDigits 4 code = [Nat.digitChar (code / 16 / 16 / 16),
      Nat.digitChar (code / 16 / 16 % 16), Nat.digitChar (code / 16 % 16),
      Nat.digitChar (code % 16)] := by
    rw [hexDigits_succ (by decide), hexDigits_succ (by decide), hexDigits_succ (by decide), first]
    rfl
  refine ⟨_, _, _, _, digits, ?_⟩
  have total : code / 16 / 16 / 16 * 4096 + code / 16 / 16 % 16 * 256 + code / 16 % 16 * 16 +
      code % 16 = code := by omega
  simp only [unit?, hexValue?_digitChar _ (by omega : code / 16 / 16 / 16 < 16),
    hexValue?_digitChar _ (Nat.mod_lt _ (by decide : 0 < 16)), bind, Option.bind_some, total]

end Hexadecimal

section Units

def unitsOf (letter : Char) : List Nat :=
  if letter.toNat < 0x10000 then [letter.toNat]
  else [0xD800 + (letter.toNat - 0x10000) / 0x400, 0xDC00 + (letter.toNat - 0x10000) % 0x400]

theorem readUnits?_unitChars {unit : Nat} (small : unit < 0x10000) (rest : List Char) :
    readUnits? (unitChars unit ++ rest) =
      (readUnits? rest).map fun (units, after) => (unit :: units, after) := by
  obtain ⟨a, b, c, d, digits, value⟩ := hexDigits_four small
  rw [unitChars, digits]
  simp only [List.cons_append, List.nil_append, readUnits?, value, bind, Option.bind_some]
  cases readUnits? rest <;> rfl

theorem char_lt (letter : Char) : letter.toNat < 0xD800 ∨
    0xDFFF < letter.toNat ∧ letter.toNat < 0x110000 := letter.valid

theorem readUnits?_short {letter : Char} {unit : Nat} (short : shortEscape? letter = some unit)
    (rest : List Char) :
    readUnits? ('\\' :: letter :: rest) =
      (readUnits? rest).map fun (units, after) => (unit :: units, after) := by
  have other : letter ≠ 'u' := by
    rintro rfl
    cases short
  rw [readUnits?]
  next =>
    rw [short]
    cases readUnits? rest <;> rfl
  next =>
    rintro a b c d after rfl
    exact absurd rfl other

theorem readUnits?_plain {letter : Char} (shown : 0x20 <= letter.toNat) (quote : letter ≠ '"')
    (backslash : letter ≠ '\\') (rest : List Char) :
    readUnits? (letter :: rest) =
      (readUnits? rest).map fun (units, after) => (letter.toNat :: units, after) := by
  rw [readUnits?]
  next => simp [backslash, Nat.not_lt.mpr shown]
  all_goals
    intros
    contradiction

theorem readUnits?_escapeChar (letter : Char) (rest : List Char) :
    readUnits? (escapeChar letter ++ rest) =
      (readUnits? rest).map fun (units, after) => (unitsOf letter ++ units, after) := by
  have codes := char_lt letter
  unfold escapeChar
  split_ifs
  -- The quote, the backslash and the marks that have a letter of their own.
  iterate 7
    next same =>
      obtain rfl := eq_of_beq same
      exact readUnits?_short rfl rest
  next quote backslash _ _ _ _ _ plain =>
    simp only [Bool.and_eq_true, decide_eq_true_eq, Char.le_def] at plain
    have shown : 0x20 <= letter.toNat := UInt32.le_iff_toNat_le.mp plain.1
    have ascii : letter.toNat <= 0x7E := UInt32.le_iff_toNat_le.mp plain.2
    rw [unitsOf, if_pos (by omega)]
    exact readUnits?_plain shown (by simpa using quote) (by simpa using backslash) rest
  next unit =>
    rw [readUnits?_unitChars unit, unitsOf, if_pos unit]
    rfl
  next unit =>
    rw [List.append_assoc, readUnits?_unitChars (by omega), readUnits?_unitChars (by omega),
      unitsOf, if_neg unit]
    cases readUnits? rest <;> rfl

theorem readUnits?_escaped (letters rest : List Char) :
    readUnits? (letters.flatMap escapeChar ++ '"' :: rest) =
      some (letters.flatMap unitsOf, rest) := by
  induction letters with
  | nil => simp [readUnits?]
  | cons letter letters ih =>
    rw [List.flatMap_cons, List.append_assoc, readUnits?_escapeChar, ih]
    rfl

/-- A unit that is a character stays alone, whatever comes after it. -/
theorem joinUnits_alone {unit : Nat} (alone : unit < 0xD800 ∨ 0xDFFF < unit) (units : List Nat) :
    joinUnits (unit :: units) = Char.ofNat unit :: joinUnits units := by
  have character : (if 0xD800 <= unit && unit <= 0xDFFF then 0xFFFD else unit) = unit :=
    if_neg (by simp only [Bool.and_eq_true, decide_eq_true_eq]; omega)
  cases units with
  | nil => simp only [joinUnits, character]
  | cons low rest =>
    rw [joinUnits, character, if_neg]
    simp only [Bool.and_eq_true, decide_eq_true_eq]
    omega

theorem joinUnits_unitsOf (letter : Char) (units : List Nat) :
    joinUnits (unitsOf letter ++ units) = letter :: joinUnits units := by
  have codes := char_lt letter
  unfold unitsOf
  split_ifs with unit
  next =>
    rw [List.cons_append, List.nil_append, joinUnits_alone (by omega), Char.ofNat_toNat]
  next =>
    have total : 0x10000 + (0xD800 + (letter.toNat - 0x10000) / 0x400 - 0xD800) * 0x400 +
        (0xDC00 + (letter.toNat - 0x10000) % 0x400 - 0xDC00) = letter.toNat := by omega
    rw [List.cons_append, List.cons_append, List.nil_append, joinUnits, if_pos, total,
      Char.ofNat_toNat]
    simp only [Bool.and_eq_true, decide_eq_true_eq]
    omega

theorem joinUnits_flatMap (letters : List Char) :
    joinUnits (letters.flatMap unitsOf) = letters := by
  induction letters with
  | nil => rfl
  | cons letter letters ih => rw [List.flatMap_cons, joinUnits_unitsOf, ih]

end Units

theorem readString_escaped (content : String) (rest : List Char) :
    readString (content.toList.flatMap escapeChar ++ '"' :: rest) = .ok (content, rest) := by
  simp only [readString, readString?, readUnits?_escaped, Option.map_some, joinUnits_flatMap,
    String.ofList_toList]

theorem stringChars_append (content : String) (rest : List Char) :
    stringChars content ++ rest = '"' :: (content.toList.flatMap escapeChar ++ '"' :: rest) := by
  simp [stringChars]

end SensorAlerting.Json
