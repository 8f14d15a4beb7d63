import SensorAlerting.Proofs.Text.Digits
import SensorAlerting.Proofs.Time.Calendar
import SensorAlerting.Time.Stamp
import Mathlib.Data.List.Basic

set_option autoImplicit false

/-!
A moment that was written with a short offset is read back as it was, unless its offset has seconds,
for which the short form has no place.
-/

namespace SensorAlerting.Time

open SensorAlerting.Number SensorAlerting.Text

section Bytes

theorem bytes_toList (bytes : ByteArray) : bytes.toList = bytes.data.toList := by
  have rest : ∀ place before, ByteArray.toList.loop bytes place before =
      before.reverse ++ bytes.data.toList.drop place := by
    intro place before
    fun_induction ByteArray.toList.loop bytes place before with
    | case1 place before inside ih =>
      have there : place < bytes.data.toList.length := by simpa using inside
      have found : bytes.get! place = bytes.data.toList[place] := by
        obtain ⟨data⟩ := bytes
        exact getElem!_pos data place there
      rw [ih, List.drop_eq_getElem_cons there, found]
      simp
    | case2 place before outside =>
      have beyond : bytes.data.toList.length <= place := by simpa using outside
      simp [List.drop_eq_nil_of_le beyond]
  simpa [ByteArray.toList] using rest 0 []

def IsAscii (letters : List Char) : Prop := ∀ letter ∈ letters, letter.toNat < 128

theorem utf8_of_ascii {letter : Char} (small : letter.toNat < 128) :
    (String.utf8EncodeChar letter).map (fun byte => Char.ofNat byte.toNat) = [letter] := by
  have low : letter.val.toNat <= 127 := Nat.le_of_lt_succ small
  have fits : letter.val.toNat % 256 = letter.toNat :=
    Nat.mod_eq_of_lt (Nat.lt_trans small (by decide))
  rw [String.utf8EncodeChar, if_pos low, List.map_singleton, UInt8.toNat_ofNat',
    fits, Char.ofNat_toNat]

theorem byteLetters_ofList {letters : List Char} (ascii : IsAscii letters) :
    byteLetters (String.ofList letters) = letters := by
  have bytes : (String.ofList letters).toUTF8.toList = letters.flatMap String.utf8EncodeChar := by
    rw [bytes_toList]
    simp [String.toUTF8, List.utf8Encode]
  rw [byteLetters, bytes, List.map_flatMap, List.flatMap_congr fun letter member =>
    utf8_of_ascii (ascii letter member)]
  simp

end Bytes

section Letters

variable {marks : List Char}

def Uses (marks letters : List Char) : Prop :=
  ∀ letter ∈ letters, isAsciiDigit letter = true ∨ letter ∈ marks

theorem uses_append {left right : List Char} :
    Uses marks (left ++ right) ↔ Uses marks left ∧ Uses marks right := List.forall_mem_append

theorem uses_cons {letter : Char} {letters : List Char} :
    Uses marks (letter :: letters) ↔
      (isAsciiDigit letter = true ∨ letter ∈ marks) ∧ Uses marks letters := List.forall_mem_cons

theorem uses_nil : Uses marks [] := List.forall_mem_nil _

theorem uses_padded (width value : Nat) : Uses marks (padded width value) := by
  intro letter member
  refine .inl ?_
  cases List.mem_append.mp member with
  | inl isZero =>
    rw [(List.mem_replicate.mp isZero).2]
    decide
  | inr digit => exact Nat.isDigit_of_mem_toDigits (by decide) (by decide) digit

theorem uses_fractionChars (point : '.' ∈ marks) (micros : Nat) :
    Uses marks (fractionChars micros) := by
  unfold fractionChars
  split
  next => exact uses_nil
  next => exact uses_cons.mpr ⟨.inr point, uses_padded _ _⟩

theorem uses_clockChars (point : '.' ∈ marks) (colon : ':' ∈ marks) (micros : Nat) :
    Uses marks (clockChars micros) := by
  simp only [clockChars, uses_append, uses_cons, uses_padded, uses_fractionChars point, colon,
    or_true, and_self]

theorem uses_wallChars (moment : Moment) (mark : 'T' ∈ marks) (hyphen : '-' ∈ marks)
    (point : '.' ∈ marks) (colon : ':' ∈ marks) : Uses marks (moment.wallChars 'T') := by
  simp only [Moment.wallChars, dateChars, uses_append, uses_cons, uses_padded,
    uses_clockChars point colon, mark, hyphen, or_true, and_self]

theorem uses_shortOffsetChars (zulu : 'Z' ∈ marks) (colon : ':' ∈ marks) (plus : '+' ∈ marks)
    (hyphen : '-' ∈ marks) (offset : Int) : Uses marks (shortOffsetChars offset) := by
  unfold shortOffsetChars
  dsimp only
  split
  next => exact uses_cons.mpr ⟨.inr zulu, uses_nil⟩
  next =>
    have sign : (if offset / second < 0 then '-' else '+') ∈ marks := by split <;> assumption
    simp only [List.cons_append, uses_append, uses_cons, uses_padded, sign, colon, or_true,
      and_self]

theorem isAscii_of_uses {letters : List Char} (ascii : IsAscii marks) (made : Uses marks letters) :
    IsAscii letters := by
  intro letter member
  obtain digit | mark := made letter member
  next =>
    simp only [isAsciiDigit, Bool.and_eq_true, decide_eq_true_eq] at digit
    exact Nat.lt_of_le_of_lt digit.2 (by decide)
  next => exact ascii letter mark

end Letters

section Digits

variable {width value : Nat} {rest : List Char}

def lastDigits : Nat -> Nat -> List Char
  | 0, _ => []
  | width + 1, value => lastDigits width (value / 10) ++ [Nat.digitChar (value % 10)]

theorem length_lastDigits (width value : Nat) : (lastDigits width value).length = width := by
  induction width generalizing value with
  | zero => rfl
  | succ width ih => simp [lastDigits, ih]

theorem lastDigits_zero (width : Nat) : lastDigits width 0 = zeros width := by
  induction width with
  | zero => rfl
  | succ width ih =>
    rw [lastDigits, ih, zeros, zeros, List.replicate_succ']
    rfl

theorem isAsciiDigit_of_mem {letter : Char} (member : letter ∈ lastDigits width value) :
    isAsciiDigit letter = true := by
  induction width generalizing value with
  | zero => cases member
  | succ width ih =>
    cases List.mem_append.mp member with
    | inl earlier => exact ih earlier
    | inr last =>
      rw [List.mem_singleton.mp last]
      exact (digitChar_spec _ (Nat.mod_lt _ (by decide))).1

theorem div_ten_lt (fits : value < Nat.pow 10 (width + 1)) : value / 10 < Nat.pow 10 width := by
  have fitsTen : value < Nat.pow 10 width * 10 := fits
  omega

theorem padded_eq_lastDigits (positive : 0 < width) (fits : value < Nat.pow 10 width) :
    padded width value = lastDigits width value := by
  induction width generalizing value with
  | zero => cases positive
  | succ width ih =>
    by_cases small : value < 10
    next =>
      have none : value / 10 = 0 := by omega
      simp [padded, natChars_of_lt small, lastDigits, none, lastDigits_zero, Nat.mod_eq_of_lt small]
    next =>
      have large : 10 <= value := Nat.le_of_not_lt small
      have fitsOne := div_ten_lt fits
      have more : 0 < width := by
        refine Nat.pos_of_ne_zero fun none => ?_
        subst none
        have few : value / 10 < 1 := fitsOne
        omega
      have before := ih more fitsOne
      rw [padded] at before
      rw [padded, natChars_of_le large, lastDigits, <- before]
      simp

theorem takeDigits_snoc {count total : Nat} {letters : List Char} {digit : Char}
    (taken : takeDigits count letters = some (total, digit :: rest))
    (isDigit : isAsciiDigit digit = true) :
    takeDigits (count + 1) letters = some (10 * total + (digit.toNat - 48), rest) := by
  induction count generalizing letters total with
  | zero =>
    obtain ⟨rfl, rfl⟩ : 0 = total ∧ letters = digit :: rest := by simpa [takeDigits] using taken
    simp [takeDigits, isDigit]
  | succ count ih =>
    cases letters with
    | nil => cases taken
    | cons first more =>
      rw [takeDigits] at taken
      split at taken
      next isFirst =>
        obtain ⟨⟨fewer, after⟩, before, same⟩ := Option.map_eq_some_iff.mp taken
        obtain ⟨rfl, rfl⟩ := Prod.mk.inj same
        rw [takeDigits, if_pos isFirst, ih before]
        simp only [Option.map_some, Option.some.injEq, Prod.mk.injEq, and_true]
        have tenfold : Nat.pow 10 (count + 1) = 10 * Nat.pow 10 count := Nat.pow_succ'
        rw [tenfold, Nat.mul_add]
        ac_rfl
      next => cases taken

theorem takeDigits_lastDigits (fits : value < Nat.pow 10 width) (rest : List Char) :
    takeDigits width (lastDigits width value ++ rest) = some (value, rest) := by
  induction width generalizing value rest with
  | zero =>
    obtain rfl : value = 0 := Nat.lt_one_iff.mp fits
    rfl
  | succ width ih =>
    have fitsOne := div_ten_lt fits
    obtain ⟨isDigit, code, -⟩ := digitChar_spec (value % 10) (Nat.mod_lt _ (by decide))
    rw [lastDigits, List.append_assoc, List.singleton_append,
      takeDigits_snoc (ih fitsOne _) isDigit, code, Nat.add_sub_cancel, Nat.div_add_mod]

theorem takeDigits_padded (positive : 0 < width) (fits : value < Nat.pow 10 width)
    (rest : List Char) :
    takeDigits width (padded width value ++ rest) = some (value, rest) := by
  rw [padded_eq_lastDigits positive fits, takeDigits_lastDigits fits]

theorem digitsValue_lastDigits (fits : value < Nat.pow 10 width) :
    digitsValue (lastDigits width value) = value := by
  induction width generalizing value with
  | zero =>
    obtain rfl : value = 0 := Nat.lt_one_iff.mp fits
    rfl
  | succ width ih =>
    have fitsOne := div_ten_lt fits
    obtain ⟨-, -, isValue⟩ := digitChar_spec (value % 10) (Nat.mod_lt _ (by decide))
    rw [lastDigits, digitsValue_snoc, ih fitsOne, isValue, Option.getD_some, Nat.div_add_mod]

end Digits

section Parts

variable {value : Nat} {tail : List Char}

theorem takeDigits_two (small : value < 100) (rest : List Char) :
    takeDigits 2 (padded 2 value ++ rest) = some (value, rest) :=
  takeDigits_padded (by decide) small rest

theorem twoDigits?_padded {limit : Nat} (small : value < limit) (few : limit <= 100)
    (rest : List Char) : twoDigits? limit (padded 2 value ++ rest) = some (value, rest) := by
  simp [twoDigits?, takeDigits_two (Nat.lt_of_lt_of_le small few), small]

theorem length_padded {width : Nat} (positive : 0 < width) (fits : value < Nat.pow 10 width) :
    (padded width value).length = width := by
  rw [padded_eq_lastDigits positive fits, length_lastDigits]

theorem monthLength_le (year : Int) (month : Nat) : monthLength year month <= 31 := by
  unfold monthLength
  grind

theorem dateChars_of_isValid {date : Date} (valid : date.isValid = true) :
    ∃ year : Nat, year < 10000 ∧ year = date.year ∧ date.month < 100 ∧ date.day < 100 ∧
      dateChars date = padded 4 year ++ '-' :: padded 2 date.month ++ '-' :: padded 2 date.day := by
  simp only [Date.isValid, Bool.and_eq_true, decide_eq_true_eq] at valid
  obtain ⟨⟨⟨⟨⟨someYear, lastYear⟩, someMonth⟩, lastMonth⟩, someDay⟩, lastDay⟩ := valid
  have longest := monthLength_le date.year date.month
  exact ⟨date.year.toNat, by omega, by omega, by omega, by omega, rfl⟩

theorem length_dateChars {date : Date} (valid : date.isValid = true) :
    (dateChars date).length = 10 := by
  obtain ⟨year, few, -, months, days, text⟩ := dateChars_of_isValid valid
  have fits : year < Nat.pow 10 4 := few
  have monthFits : date.month < Nat.pow 10 2 := months
  have dayFits : date.day < Nat.pow 10 2 := days
  simp only [text, List.length_append, List.length_cons, length_padded (by decide) fits,
    length_padded (by decide) monthFits, length_padded (by decide) dayFits]

theorem stampDate_dateChars {date : Date} (valid : date.isValid = true) (rest : List Char) :
    stampDate (dateChars date ++ rest) = .ok (date, rest) := by
  have long : ¬ (dateChars date ++ rest).length < 10 := by
    rw [List.length_append, length_dateChars valid]
    omega
  obtain ⟨year, few, isYear, months, days, text⟩ := dateChars_of_isValid valid
  have fits : year < Nat.pow 10 4 := few
  obtain ⟨first, month, day⟩ := date
  simp only [Date.isValid, Bool.and_eq_true, decide_eq_true_eq] at valid isYear months days text
  have possible : (month == 0 || decide (12 < month)) = false ∧
      (day == 0 || decide (monthLength first month < day)) = false := by
    simp only [Bool.or_eq_false_iff, beq_eq_false_iff_ne, decide_eq_false_iff_not]
    omega
  rw [stampDate, if_neg long]
  simp only [text, List.append_assoc, List.cons_append, takeDigits_padded (by decide) fits,
    takeDigits_two months, takeDigits_two days, digitsAt, hyphenAt, isYear, possible, bind,
    Except.bind]
  rfl

theorem takeWhile_lastDigits {width : Nat} (ends : ∀ mark ∈ tail.head?, isAsciiDigit mark = false) :
    (lastDigits width value ++ tail).takeWhile isAsciiDigit = lastDigits width value ∧
      (lastDigits width value ++ tail).dropWhile isAsciiDigit = tail := by
  have digits : ∀ letter ∈ lastDigits width value, isAsciiDigit letter = true :=
    fun letter member => isAsciiDigit_of_mem member
  rw [List.takeWhile_append_of_pos digits, List.dropWhile_append_of_pos digits]
  cases tail with
  | nil => simp
  | cons mark rest => simp [ends mark rfl]

def Ends (tail : List Char) : Prop :=
  ∀ mark ∈ tail.head?, isAsciiDigit mark = false ∧ mark ≠ '.' ∧ mark ≠ ','

theorem stampFraction?_fractionChars (fits : value < 1000000) (ends : Ends tail) :
    stampFraction? (fractionChars value ++ tail) = some (value, tail) := by
  unfold fractionChars
  by_cases none : value = 0
  next =>
    subst none
    cases tail with
    | nil => rfl
    | cons mark rest =>
      obtain ⟨-, noPoint, noComma⟩ := ends mark rfl
      simp [stampFraction?, noPoint, noComma]
  next =>
    have six : value < Nat.pow 10 6 := fits
    have taken := @takeWhile_lastDigits value tail 6 fun mark first => (ends mark first).1
    have all : (lastDigits 6 value).take 6 = lastDigits 6 value :=
      List.take_of_length_le (Nat.le_of_eq (length_lastDigits 6 value))
    have some : (lastDigits 6 value).isEmpty = false := by
      rw [List.isEmpty_eq_false_iff_exists_mem]
      exact ⟨_, List.mem_append_right _ (List.mem_singleton.mpr rfl)⟩
    simp only [beq_iff_eq, none, if_false, List.cons_append, stampFraction?, beq_self_eq_true,
      Bool.true_or, if_true, padded_eq_lastDigits (by decide) six, taken, all, some,
      Bool.false_eq_true, length_lastDigits, digitsValue_lastDigits six]
    simp

theorem stampTime?_clockChars {micros : Nat} {offset : Option Int} (within : micros < 86400000000)
    (ends : Ends tail) (offsetRead : stampOffset? tail = some offset) :
    stampTime? (clockChars micros ++ tail) = some ((micros : Int), offset) := by
  have fewHours : micros / 1000000 / 3600 < 24 := by omega
  have fewMinutes : micros / 1000000 / 60 % 60 < 60 := by omega
  have fewSeconds : micros / 1000000 % 60 < 60 := by omega
  have fewMicros : micros % 1000000 < 1000000 := by omega
  have hours := twoDigits?_padded fewHours (by decide)
  have minutes := twoDigits?_padded fewMinutes (by decide)
  have seconds := twoDigits?_padded fewSeconds (by decide)
  have fraction := stampFraction?_fractionChars fewMicros ends
  simp only [clockChars, List.append_assoc, List.cons_append, stampTime?, hours, minutes, seconds,
    fraction, offsetRead, bind, Option.bind, second]
  congr 2
  omega

/-- A moment that a calendar shows, at an offset of whole minutes that is less than a day. -/
structure Moment.IsPlain (moment : Moment) : Prop where
  wall : inCalendar moment.wall = true
  whole : ∀ offset ∈ moment.offset, offset % minute = 0
  small : ∀ offset ∈ moment.offset, -day < offset ∧ offset < day

instance (moment : Moment) : Decidable moment.IsPlain :=
  decidable_of_iff
    (inCalendar moment.wall = true ∧ (∀ offset ∈ moment.offset, offset % minute = 0) ∧
      ∀ offset ∈ moment.offset, -day < offset ∧ offset < day)
    ⟨fun ⟨wall, whole, small⟩ => ⟨wall, whole, small⟩, fun ⟨wall, whole, small⟩ =>
      ⟨wall, whole, small⟩⟩

theorem stampOffset?_sign {sign : Char} (isSign : sign = '+' ∨ sign = '-') {hours minutes : Nat}
    (fewHours : hours < 24) (fewMinutes : minutes < 60) :
    stampOffset? (sign :: padded 2 hours ++ ':' :: padded 2 minutes) =
      some (some (let size := (hours : Int) * hour + (minutes : Int) * minute
        if sign == '-' then -size else size)) := by
  have hoursRead := twoDigits?_padded fewHours (by decide) (':' :: padded 2 minutes)
  have minutesRead := twoDigits?_padded fewMinutes (by decide) []
  rw [List.append_nil] at minutesRead
  have noZulu : sign ≠ 'Z' ∧ sign ≠ 'z' := by
    obtain rfl | rfl := isSign <;> decide
  have isMark : (sign == '+' || sign == '-') = true := by
    obtain rfl | rfl := isSign <;> rfl
  rw [List.cons_append, stampOffset?.eq_def]
  split
  next empty => cases empty
  next zulu => exact absurd (List.cons.inj zulu).1 noZulu.1
  next zulu => exact absurd (List.cons.inj zulu).1 noZulu.2
  next first rest _ _ same =>
    obtain ⟨rfl, rfl⟩ := List.cons.inj same
    simp only [isMark, if_true, hoursRead, minutesRead, bind, Option.bind, List.isEmpty_nil]

theorem stampOffset?_shortOffsetChars {offset : Int} (whole : offset % minute = 0)
    (small : -day < offset ∧ offset < day) :
    stampOffset? (shortOffsetChars offset) = some (some offset) := by
  obtain ⟨minutes, isMinutes⟩ : ∃ minutes, offset = minutes * 60000000 := by
    refine ⟨offset / 60000000, ?_⟩
    simp only [minute, second] at whole
    omega
  simp only [day, hour, minute, second, isMinutes] at small
  have seconds : offset / second = 60 * minutes := by
    simp only [second]
    omega
  simp only [shortOffsetChars, seconds]
  by_cases none : minutes = 0
  next =>
    subst none
    rw [isMinutes]
    rfl
  next =>
    have there : ¬ 60 * minutes = 0 := by omega
    have fewHours : (60 * minutes).natAbs / 3600 < 24 := by omega
    have fewMinutes : (60 * minutes).natAbs / 60 % 60 < 60 := by omega
    by_cases west : 60 * minutes < 0
    next =>
      simp only [beq_iff_eq, there, west, if_false, if_true]
      rw [stampOffset?_sign (.inr rfl) fewHours fewMinutes]
      simp only [hour, minute, second, beq_self_eq_true, if_true]
      congr 2
      omega
    next =>
      simp only [beq_iff_eq, there, west, if_false]
      rw [stampOffset?_sign (.inl rfl) fewHours fewMinutes]
      have eastward : (('+' : Char) == '-') = false := rfl
      simp only [hour, minute, second, eastward, Bool.false_eq_true, if_false]
      congr 2
      omega

theorem ends_offsetChars (offset : Option Int) :
    Ends ((offset.map shortOffsetChars).getD []) := by
  intro mark first
  cases offset with
  | none => cases first
  | some offset =>
    rw [Option.map_some, Option.getD_some, shortOffsetChars.eq_def] at first
    dsimp only at first
    obtain rfl | rfl | rfl : 'Z' = mark ∨ '-' = mark ∨ '+' = mark := by
      split at first
      next => exact .inl (by simpa using first)
      next =>
        split at first
        next => exact .inr (.inl (by simpa using first))
        next => exact .inr (.inr (by simpa using first))
    all_goals decide

theorem dateAndTime_of_inCalendar {wall : Int} (shown : inCalendar wall = true) :
    (Date.ofDayNumber (wall / day)).isValid = true ∧ (wall % day).toNat < 86400000000 ∧
      wall / day * day + ((wall % day).toNat : Int) = wall := by
  rw [inCalendar, Bool.and_eq_true, decide_eq_true_eq, decide_eq_true_eq] at shown
  simp only [firstWall, lastWall, second] at shown
  have days : firstDay <= wall / day ∧ wall / day <= lastDay := by
    simp only [firstDay, lastDay, day, hour, minute, second]
    omega
  refine ⟨isValid_ofDayNumber days.1 days.2, ?_, ?_⟩ <;> simp only [day, hour, minute, second] <;>
    omega

theorem readStamp_zuluText {moment : Moment} (plain : moment.IsPlain) :
    readStamp moment.zuluText = .ok moment := by
  obtain ⟨wall, offset⟩ := moment
  obtain ⟨shown, minutes, small⟩ := plain
  obtain ⟨valid, within, whole⟩ := dateAndTime_of_inCalendar shown
  have offsetRead : stampOffset? ((offset.map shortOffsetChars).getD []) = some offset := by
    cases offset with
    | none => rfl
    | some offset => exact stampOffset?_shortOffsetChars (minutes offset rfl) (small offset rfl)
  have made : Uses ['T', '-', '.', ':', 'Z', '+'] (Moment.wallChars ⟨wall, offset⟩ 'T' ++
      (offset.map shortOffsetChars).getD []) := by
    refine uses_append.mpr ⟨uses_wallChars _ (by simp) (by simp) (by simp) (by simp), ?_⟩
    cases offset with
    | none => exact uses_nil
    | some offset => exact uses_shortOffsetChars (by simp) (by simp) (by simp) (by simp) offset
  have ascii := isAscii_of_uses (by simp [IsAscii]) made
  have someYear : inYearZero (Date.ofDayNumber (wall / day)) = false := by
    simp only [Date.isValid, Bool.and_eq_true, decide_eq_true_eq] at valid
    simp only [inYearZero, beq_eq_false_iff_ne]
    omega
  rw [readStamp, Moment.zuluText, byteLetters_ofList ascii, Moment.wallChars, List.append_assoc,
    readStampBytes, stampDate_dateChars valid]
  simp only [List.cons_append, joinsDateAndTime, beq_self_eq_true, Bool.true_or, if_true,
    stampTime?_clockChars within (ends_offsetChars offset) offsetRead, someYear,
    dayNumber_ofDayNumber, whole, Bool.false_eq_true, if_false]

end Parts

end SensorAlerting.Time
