import SensorAlerting.Proofs.Time.Stamp
import SensorAlerting.Time.Iso

set_option autoImplicit false

/-!
A moment that was written as ISO text is read back as it was, unless its offset is a fraction of a
second, which counts as none. Such a moment is never read, in whatever form it is given.
-/

namespace SensorAlerting.Time

open SensorAlerting.Number SensorAlerting.Text

/-- No offset, or one of at least a second and less than a day. -/
def IsLegibleOffset (offset : Int) : Prop :=
  offset = 0 ∨ second <= offset.natAbs ∧ offset.natAbs < day

structure Moment.IsLegible (moment : Moment) : Prop where
  wall : inCalendar moment.wall = true
  offset : ∀ offset ∈ moment.offset, IsLegibleOffset offset

section Letters

variable {marks : List Char}

theorem uses_offsetChars (point : '.' ∈ marks) (colon : ':' ∈ marks) (plus : '+' ∈ marks)
    (hyphen : '-' ∈ marks) (offset : Int) : Uses marks (offsetChars offset) := by
  simp only [offsetChars, List.cons_append, List.append_assoc, uses_append, uses_cons, uses_padded,
    colon, or_true, true_and]
  refine ⟨.inr ?_, ?_⟩
  next => split <;> assumption
  next =>
    split
    next => exact uses_nil
    next =>
      simp only [uses_append, uses_cons, uses_padded, uses_fractionChars point, colon, or_true,
        and_self]

theorem uses_isoChars (moment : Moment) : Uses ['T', '-', '.', ':', '+'] moment.isoChars := by
  refine uses_append.mpr ⟨uses_wallChars _ (by simp) (by simp) (by simp) (by simp), ?_⟩
  cases moment.offset with
  | none => exact uses_nil
  | some offset => exact uses_offsetChars (by simp) (by simp) (by simp) (by simp) offset

theorem isAsciiDigit_not_startsOffset {letter : Char} (digit : isAsciiDigit letter = true) :
    startsOffset letter = false := by
  refine Bool.eq_false_iff.mpr fun starts => ?_
  simp only [startsOffset, Bool.or_eq_true, beq_iff_eq] at starts
  obtain (rfl | rfl) | rfl := starts <;> cases digit

end Letters

section Fields

variable {fields value : Nat} {known : Option Bool}

theorem isEmpty_padded {width : Nat} (positive : 0 < width) (rest : List Char) :
    (padded width value ++ rest).isEmpty = false := by
  have long : width <= (padded width value).length := by
    simp only [padded, zeros, List.length_append, List.length_replicate]
    omega
  rw [List.isEmpty_eq_false_iff, <- List.length_pos_iff, List.length_append]
  omega

theorem readFraction?_padded (fits : value < 1000000) :
    readFraction? (padded 6 value) = some (value, false) := by
  have six : value < Nat.pow 10 6 := fits
  have long : (padded 6 value).length = 6 := length_padded (by decide) six
  have taken := takeDigits_padded (by decide) six []
  rw [List.append_nil] at taken
  simp [readFraction?, long, taken, goesOn, bind, Option.bind]

theorem readFields?_colon (small : value < 100) (separated : known.getD true = true)
    {tail : List Char} (more : tail.isEmpty = false) :
    readFields? (fields + 1) known (padded 2 value ++ ':' :: tail) =
      (readFields? fields (some true) tail).map fun (values, micros, leftover) =>
        (value :: values, micros, leftover) := by
  have isColon : (':' == ':') = true := rfl
  simp only [readFields?, takeDigits_two small, bind, Option.bind, isColon, separated, more,
    Bool.false_and, Bool.and_self, Bool.false_eq_true, if_false, if_true]
  cases readFields? fields (some true) tail <;> rfl

theorem readFields?_last (small : value < 100) :
    readFields? (fields + 1) known (padded 2 value) = some ([value], 0, false) := by
  have taken := takeDigits_two small []
  rw [List.append_nil] at taken
  simp only [readFields?, taken, bind, Option.bind]

theorem readFields?_fractionChars (small : value < 100) {micros : Nat} (fits : micros < 1000000) :
    readFields? (fields + 1) known (padded 2 value ++ fractionChars micros) =
      some ([value], micros, false) := by
  unfold fractionChars
  by_cases none : micros = 0
  next =>
    subst none
    rw [beq_self_eq_true, if_pos rfl, List.append_nil, readFields?_last small]
  next =>
    have some : (padded 6 micros ++ []).isEmpty = false := isEmpty_padded (by decide) []
    rw [List.append_nil] at some
    have noColon : ('.' == ':') = false := rfl
    have point : ('.' == '.') = true := rfl
    simp only [beq_iff_eq, none, if_false, readFields?, takeDigits_two small, bind, Option.bind,
      some, noColon, point, Bool.false_and, Bool.and_false, Bool.true_or, Bool.false_eq_true,
      if_true, readFraction?_padded fits, Option.map_some]

def Clock.ofMicros (micros : Nat) : Clock :=
  { hours := micros / 1000000 / 3600
    minutes := micros / 1000000 / 60 % 60
    seconds := micros / 1000000 % 60
    micros := micros % 1000000
    leftover := false }

theorem Clock.total_ofMicros (micros : Nat) : (Clock.ofMicros micros).total = micros := by
  simp only [Clock.total, Clock.ofMicros, second]
  omega

theorem readClock?_clockChars {micros : Nat} (within : micros < 86400000000) :
    readClock? (clockChars micros) = some (.ofMicros micros) := by
  have fewHours : micros / 1000000 / 3600 < 100 := by omega
  have fewMinutes : micros / 1000000 / 60 % 60 < 100 := by omega
  have fewSeconds : micros / 1000000 % 60 < 100 := by omega
  have fewMicros : micros % 1000000 < 1000000 := by omega
  simp only [readClock?, clockChars, List.append_assoc, List.cons_append]
  rw [readFields?_colon fewHours rfl (isEmpty_padded (by decide) _),
    readFields?_colon fewMinutes rfl (isEmpty_padded (by decide) _),
    readFields?_fractionChars fewSeconds fewMicros]
  rfl

def sizeChars (micros : Nat) : List Char :=
  let seconds := micros / 1000000
  let fraction := micros % 1000000
  padded 2 (seconds / 3600) ++ ':' :: padded 2 (seconds / 60 % 60) ++
    if seconds % 60 == 0 && fraction == 0 then []
    else ':' :: padded 2 (seconds % 60) ++ fractionChars fraction

theorem offsetChars_eq (offset : Int) :
    offsetChars offset = (if offset < 0 then '-' else '+') :: sizeChars offset.natAbs := rfl

theorem readClock?_sizeChars {micros : Nat} (within : micros < 86400000000) :
    readClock? (sizeChars micros) = some (.ofMicros micros) := by
  have fewHours : micros / 1000000 / 3600 < 100 := by omega
  have fewMinutes : micros / 1000000 / 60 % 60 < 100 := by omega
  have fewSeconds : micros / 1000000 % 60 < 100 := by omega
  have fewMicros : micros % 1000000 < 1000000 := by omega
  simp only [readClock?, sizeChars, List.append_assoc, List.cons_append]
  rw [readFields?_colon fewHours rfl (isEmpty_padded (by decide) _)]
  by_cases whole : micros / 1000000 % 60 = 0 ∧ micros % 1000000 = 0
  next =>
    obtain ⟨noSeconds, noFraction⟩ := whole
    simp only [noSeconds, noFraction, beq_self_eq_true, Bool.and_self, if_true, List.append_nil,
      readFields?_last fewMinutes, Clock.ofMicros, Option.map_some]
    rfl
  next =>
    have some : (micros / 1000000 % 60 == 0 && micros % 1000000 == 0) = false := by
      rw [Bool.and_eq_false_iff, beq_eq_false_iff_ne, beq_eq_false_iff_ne]
      omega
    rw [some, if_neg Bool.false_ne_true,
      readFields?_colon fewMinutes rfl (isEmpty_padded (by decide) _),
      readFields?_fractionChars fewSeconds fewMicros]
    rfl

theorem readOffset?_sizeChars {offset : Int} (sign : Char)
    (isSign : sign = if offset < 0 then '-' else '+')
    (legible : IsLegibleOffset offset) :
    readOffset? sign (sizeChars offset.natAbs) = some offset := by
  have within : offset.natAbs < 86400000000 := by
    simp only [IsLegibleOffset, day, hour, minute, second] at legible
    omega
  have noLeftover : (Clock.ofMicros offset.natAbs).leftover = false := rfl
  simp only [readOffset?, readClock?_sizeChars within, bind, Option.bind, noLeftover,
    Clock.total_ofMicros, Bool.false_eq_true, if_false]
  obtain rfl | ⟨least, most⟩ := legible
  next => rfl
  next =>
    rw [if_neg (by omega), if_neg (by omega), isSign]
    by_cases west : offset < 0
    next =>
      simp only [west, if_true, beq_self_eq_true, Option.some.injEq]
      omega
    next =>
      have plus : ('+' == '-') = false := rfl
      simp only [west, if_false, plus, Bool.false_eq_true, Option.some.injEq]
      omega

theorem clockChars_goes (micros : Nat) :
    ∀ letter ∈ clockChars micros, (!startsOffset letter) = true := by
  intro letter member
  have made : Uses ['.', ':'] (clockChars micros) := uses_clockChars (by simp) (by simp) micros
  obtain digit | mark := made letter member
  next => rw [isAsciiDigit_not_startsOffset digit, Bool.not_false]
  next =>
    simp only [List.mem_cons, List.not_mem_nil, or_false] at mark
    obtain rfl | rfl := mark <;> rfl

theorem offsetChars_stops (offset : Option Int) :
    ((offset.map offsetChars).getD []).takeWhile (fun letter => !startsOffset letter) = [] := by
  cases offset with
  | none => rfl
  | some offset =>
    have starts : startsOffset (if offset < 0 then '-' else '+') = true := by split <;> rfl
    rw [Option.map_some, Option.getD_some, offsetChars_eq]
    exact List.takeWhile_cons_of_neg (by simp [starts])

theorem readTime?_clockChars {micros : Nat} {offset : Option Int} (within : micros < 86400000000)
    (legible : ∀ known ∈ offset, IsLegibleOffset known) :
    readTime? (clockChars micros ++ (offset.map offsetChars).getD []) =
      some ((micros : Int), offset) := by
  have goes := clockChars_goes micros
  have shown : (Clock.ofMicros micros).hours < 24 ∧ (Clock.ofMicros micros).minutes < 60 ∧
      (Clock.ofMicros micros).seconds < 60 := by
    simp only [Clock.ofMicros]
    omega
  have noLeftover : (Clock.ofMicros micros).leftover = false := rfl
  rw [readTime?, List.takeWhile_append_of_pos goes, List.dropWhile_append_of_pos goes]
  cases offset with
  | none =>
    simp only [Option.map_none, Option.getD_none, List.takeWhile_nil, List.dropWhile_nil,
      List.append_nil, readClock?_clockChars within, bind, Option.bind, noLeftover, shown,
      Clock.total_ofMicros, decide_true, Bool.and_self, if_true, Bool.false_eq_true, if_false]
  | some offset =>
    obtain ⟨sign, isSign⟩ : ∃ sign, sign = if offset < 0 then '-' else '+' := ⟨_, rfl⟩
    have starts : startsOffset sign = true ∧ sign ≠ 'Z' := by
      rw [isSign]
      split <;> decide
    rw [Option.map_some, Option.getD_some, offsetChars_eq, <- isSign,
      List.takeWhile_cons_of_neg (by simp [starts.1]),
      List.dropWhile_cons_of_neg (by simp [starts.1]), List.append_nil]
    simp only [readClock?_clockChars within, bind, Option.bind, shown,
      Clock.total_ofMicros, decide_true, Bool.and_self, if_true]
    split
    next empty => cases empty
    next zulu => exact absurd (List.cons.inj zulu).1 starts.2
    next first rest _ same =>
      obtain ⟨rfl, rfl⟩ := List.cons.inj same
      rw [readOffset?_sizeChars sign isSign (legible offset rfl)]
      rfl

end Fields

section Texts

theorem exists_padded_two {value : Nat} (small : value < 100) :
    ∃ first second, padded 2 value = [first, second] ∧ isAsciiDigit first = true := by
  refine ⟨_, _, padded_eq_lastDigits (by decide) small, ?_⟩
  exact (digitChar_spec _ (Nat.mod_lt _ (by decide))).1

theorem readDate?_dateChars {date : Date} (valid : date.isValid = true) :
    readDate? (dateChars date) = some date := by
  obtain ⟨year, few, isYear, months, days, text⟩ := dateChars_of_isValid valid
  have fits : year < Nat.pow 10 4 := few
  obtain ⟨first, second, isMonth, digit⟩ := exists_padded_two months
  have monthRead := takeDigits_two months ('-' :: padded 2 date.day)
  have dayRead := takeDigits_two days []
  have noWeek : first ≠ 'W' := by
    rintro rfl
    cases digit
  have hyphen : (some '-' == some '-') = true := rfl
  rw [isMonth] at monthRead
  rw [List.append_nil] at dayRead
  simp only [readDate?, text, isMonth, List.append_assoc, List.cons_append, List.nil_append,
    takeDigits_padded (by decide) fits, bind, Option.bind, List.head?_cons, hyphen, if_true,
    List.drop_one, List.tail_cons]
  split
  next rest same => exact absurd (List.cons.inj same).1 noWeek
  next =>
    simp only [List.cons_append, List.nil_append] at monthRead
    simp only [monthRead, dayRead, List.isEmpty_nil, if_true, isYear]

theorem dateLength_dateChars {date : Date} (valid : date.isValid = true) (rest : List Char) :
    dateLength (dateChars date ++ rest) = some 10 := by
  have long : ((dateChars date ++ rest).length == 7) = false := by
    rw [beq_eq_false_iff_ne, List.length_append, length_dateChars valid]
    omega
  obtain ⟨year, few, -, months, -, text⟩ := dateChars_of_isValid valid
  have fits : year < Nat.pow 10 4 := few
  obtain ⟨first, second, isMonth, digit⟩ := exists_padded_two months
  have noWeek : first ≠ 'W' := by
    rintro rfl
    cases digit
  have afterYear : (dateChars date ++ rest).drop 4 =
      '-' :: first :: second :: ('-' :: padded 2 date.day ++ rest) := by
    rw [text, isMonth, List.append_assoc, List.append_assoc,
      List.drop_left' (length_padded (by decide) fits)]
    rfl
  rw [dateLength, long, if_neg Bool.false_ne_true, afterYear]
  split
  next week same => exact absurd (List.cons.inj (List.cons.inj same).2).1 noWeek
  next => rfl
  next same => cases same
  next other _ => exact absurd rfl (other _)

theorem readIso?_isoChars {moment : Moment} (legible : moment.IsLegible) :
    readIso? moment.isoChars = some moment := by
  obtain ⟨wall, offset⟩ := moment
  obtain ⟨shown, legible⟩ := legible
  obtain ⟨valid, within, whole⟩ := dateAndTime_of_inCalendar shown
  have ten := length_dateChars valid
  rw [Moment.isoChars, Moment.wallChars, List.append_assoc, List.cons_append, readIso?,
    if_neg (by rw [List.length_append, ten]; omega), dateLength_dateChars valid]
  simp only [bind, Option.bind, List.take_left' ten, List.drop_left' ten,
    readDate?_dateChars valid, readTime?_clockChars within legible, valid, dayNumber_ofDayNumber,
    whole, if_true]

example : readIso? ({ wall := 0, offset := some 500000 } : Moment).isoChars = some (universal 0) := by
  decide +kernel

/-- What holds of every moment: its wall clock shows a date of the calendar, and its offset is less
than a day. -/
structure Moment.IsSound (moment : Moment) : Prop where
  wall : inCalendar moment.wall = true
  offset : ∀ offset ∈ moment.offset, -day < offset ∧ offset < day

theorem clockChars_inj {left right : Nat} (within : left < 86400000000)
    (withinToo : right < 86400000000) (same : clockChars left = clockChars right) :
    left = right := by
  have read := readClock?_clockChars within
  rw [same, readClock?_clockChars withinToo] at read
  have total := congrArg Clock.total (Option.some.inj read)
  rw [Clock.total_ofMicros, Clock.total_ofMicros] at total
  omega

theorem offsetChars_inj {left right : Int} (near : -day < left ∧ left < day)
    (nearToo : -day < right ∧ right < day) (same : offsetChars left = offsetChars right) :
    left = right := by
  rw [offsetChars_eq, offsetChars_eq] at same
  obtain ⟨signs, sizes⟩ := List.cons.inj same
  simp only [day, hour, minute, second] at near nearToo
  have read := readClock?_sizeChars (show left.natAbs < 86400000000 by omega)
  rw [sizes, readClock?_sizeChars (show right.natAbs < 86400000000 by omega)] at read
  have total := congrArg Clock.total (Option.some.inj read)
  rw [Clock.total_ofMicros, Clock.total_ofMicros] at total
  have west : left < 0 ↔ right < 0 := by
    by_cases first : left < 0 <;> by_cases second : right < 0 <;> simp [first, second] at signs ⊢
  omega

theorem Moment.isoText_inj {left right : Moment} (sound : left.IsSound) (soundToo : right.IsSound)
    (same : left.isoText = right.isoText) : left = right := by
  obtain ⟨valid, within, whole⟩ := dateAndTime_of_inCalendar sound.wall
  obtain ⟨validToo, withinToo, wholeToo⟩ := dateAndTime_of_inCalendar soundToo.wall
  have texts : left.isoChars = right.isoChars := String.ofList_injective same
  simp only [Moment.isoChars, Moment.wallChars, List.append_assoc] at texts
  obtain ⟨dates, times⟩ := List.append_inj texts
    ((length_dateChars valid).trans (length_dateChars validToo).symm)
  have read := readDate?_dateChars valid
  rw [dates, readDate?_dateChars validToo] at read
  have days := congrArg Date.dayNumber (Option.some.inj read)
  rw [dayNumber_ofDayNumber, dayNumber_ofDayNumber] at days
  rw [List.cons_append, List.cons_append] at times
  have clocks := congrArg (List.takeWhile fun letter => !startsOffset letter)
    (List.cons.inj times).2
  rw [List.takeWhile_append_of_pos (clockChars_goes _), List.takeWhile_append_of_pos
    (clockChars_goes _), offsetChars_stops, offsetChars_stops, List.append_nil, List.append_nil]
    at clocks
  have micros := clockChars_inj within withinToo clocks
  have walls : left.wall = right.wall := by rw [<- whole, <- days, micros, wholeToo]
  have offsets := List.append_cancel_left (clocks ▸ (List.cons.inj times).2)
  obtain ⟨wall, offset⟩ := left
  obtain ⟨wallToo, offsetToo⟩ := right
  obtain rfl : wall = wallToo := walls
  cases offset <;> cases offsetToo
  next => rfl
  next => cases offsets
  next => cases offsets
  next offset offsetToo =>
    rw [offsetChars_inj (sound.offset offset rfl) (soundToo.offset offsetToo rfl) offsets]

end Texts

section Readings

theorem takeDigits_lt {count value : Nat} {letters rest : List Char}
    (taken : takeDigits count letters = some (value, rest)) : value < Nat.pow 10 count := by
  induction count generalizing letters value with
  | zero =>
    obtain ⟨rfl, -⟩ : 0 = value ∧ letters = rest := by simpa [takeDigits] using taken
    decide
  | succ count ih =>
    cases letters with
    | nil => cases taken
    | cons letter more =>
      rw [takeDigits] at taken
      split at taken
      next digit =>
        obtain ⟨⟨fewer, after⟩, before, same⟩ := Option.map_eq_some_iff.mp taken
        obtain ⟨rfl, rfl⟩ := Prod.mk.inj same
        have small := ih before
        have nine : letter.toNat - 48 <= 9 := by
          simp only [isAsciiDigit, Bool.and_eq_true, decide_eq_true_eq] at digit
          have upper : letter.toNat <= 57 := digit.2
          omega
        have tenfold : Nat.pow 10 (count + 1) = Nat.pow 10 count * 10 := rfl
        have product := Nat.mul_le_mul_right (Nat.pow 10 count) nine
        omega
      next => cases taken

theorem readFraction?_lt {letters : List Char} {micros : Nat} {more : Bool}
    (read : readFraction? letters = some (micros, more)) : micros < 1000000 := by
  obtain ⟨⟨value, rest⟩, taken, same⟩ := Option.bind_eq_some_iff.mp read
  obtain ⟨rfl, -⟩ := Prod.mk.inj (Option.some.inj same)
  have few : min 6 letters.length <= 6 := Nat.min_le_left _ _
  have scale : Nat.pow 10 (min 6 letters.length) * Nat.pow 10 (6 - min 6 letters.length) =
      1000000 := by
    rw [Nat.pow_eq, Nat.pow_eq, <- Nat.pow_add, Nat.add_sub_cancel' few]
  rw [<- scale]
  exact Nat.mul_lt_mul_of_pos_right (takeDigits_lt taken) (Nat.pow_pos (by decide))

theorem readFields?_micros_lt {fields : Nat} {known : Option Bool} {letters : List Char}
    {values : List Nat} {micros : Nat} {more : Bool}
    (read : readFields? fields known letters = some (values, micros, more)) :
    micros < 1000000 := by
  induction fields generalizing known letters values with
  | zero =>
    obtain ⟨⟨fraction, after⟩, fractionRead, same⟩ := Option.map_eq_some_iff.mp read
    obtain ⟨-, rfl, -⟩ : [] = values ∧ fraction = micros ∧ after = more := by simpa using same
    exact readFraction?_lt fractionRead
  | succ fields ih =>
    obtain ⟨⟨value, rest⟩, -, after⟩ := Option.bind_eq_some_iff.mp read
    -- Whatever follows the first field, its fraction is that of the whole.
    have last : ∀ {later : Option (List Nat × Nat × Bool)},
        (later.bind fun (values, micros, more) => some (value :: values, micros, more)) =
          some (values, micros, more) -> ∃ others, later = some (others, micros, more) := by
      intro later same
      obtain ⟨⟨others, fraction, leftover⟩, found, same⟩ := Option.bind_eq_some_iff.mp same
      obtain ⟨-, rfl, rfl⟩ : value :: others = values ∧ fraction = micros ∧ leftover = more := by
        simpa using same
      exact ⟨others, found⟩
    dsimp only at after
    split at after
    next =>
      obtain ⟨others, same⟩ := last after
      obtain ⟨-, rfl, -⟩ : [] = others ∧ 0 = micros ∧ false = more := by simpa using same
      decide
    next mark tail =>
      split at after
      next =>
        obtain ⟨others, same⟩ := last after
        obtain ⟨-, rfl, -⟩ : [] = others ∧ 0 = micros ∧ goesOn (mark :: tail) = more := by
          simpa using same
        decide
      next =>
        split at after
        next =>
          obtain ⟨others, later⟩ := last after
          exact ih later
        next =>
          split at after
          next =>
            obtain ⟨others, later⟩ := last after
            obtain ⟨⟨fraction, leftover⟩, fractionRead, same⟩ := Option.map_eq_some_iff.mp later
            obtain ⟨-, rfl, -⟩ : [] = others ∧ fraction = micros ∧ leftover = more := by
              simpa using same
            exact readFraction?_lt fractionRead
          next =>
            split at after
            next =>
              obtain ⟨others, later⟩ := last after
              exact ih later
            next => cases after

theorem readClock?_micros_lt {letters : List Char} {clock : Clock}
    (read : readClock? letters = some clock) : clock.micros < 1000000 := by
  obtain ⟨⟨values, micros, leftover⟩, fieldsRead, rfl⟩ := Option.map_eq_some_iff.mp read
  exact readFields?_micros_lt fieldsRead

theorem isLegibleOffset_of_readOffset? {sign : Char} {letters : List Char} {offset : Int}
    (read : readOffset? sign letters = some offset) : IsLegibleOffset offset := by
  obtain ⟨clock, clockRead, after⟩ := Option.bind_eq_some_iff.mp read
  have nonneg : 0 <= clock.total := by
    simp only [Clock.total, second]
    omega
  dsimp only at after
  split at after
  next => cases after
  next =>
    split at after
    next => exact .inl (Option.some.inj after).symm
    next least =>
      split at after
      next => cases after
      next most =>
        refine .inr ?_
        have size : (offset.natAbs : Int) = clock.total := by
          rw [<- Option.some.inj after]
          split <;> omega
        omega

theorem total_of_shown {clock : Clock} {letters : List Char}
    (read : readClock? letters = some clock)
    (shown : (decide (clock.hours < 24) && decide (clock.minutes < 60) &&
      decide (clock.seconds < 60)) = true) : 0 <= clock.total ∧ clock.total < day := by
  simp only [Bool.and_eq_true, decide_eq_true_eq] at shown
  have fraction := readClock?_micros_lt read
  simp only [Clock.total, day, hour, minute, second]
  omega

theorem readTime?_spec {letters : List Char} {time : Int} {offset : Option Int}
    (read : readTime? letters = some (time, offset)) :
    0 <= time ∧ time < day ∧ ∀ known ∈ offset, IsLegibleOffset known := by
  obtain ⟨clock, clockRead, after⟩ := Option.bind_eq_some_iff.mp read
  -- Whatever offset follows it, the time is what the clock shows.
  have ends : ∀ {zone : Option (Option Int)}, (zone.bind fun offset =>
        if clock.hours < 24 && clock.minutes < 60 && clock.seconds < 60 then
          some (clock.total, offset)
        else none) = some (time, offset) ->
      (∀ known, zone = some (some known) -> IsLegibleOffset known) ->
        0 <= time ∧ time < day ∧ ∀ known ∈ offset, IsLegibleOffset known := by
    intro zone same legible
    obtain ⟨given, rfl, same⟩ := Option.bind_eq_some_iff.mp same
    split at same
    next shown =>
      obtain ⟨rfl, rfl⟩ := Prod.mk.inj (Option.some.inj same)
      obtain ⟨started, short⟩ := total_of_shown clockRead shown
      exact ⟨started, short, fun known isKnown => legible known (congrArg some isKnown)⟩
    next => cases same
  dsimp only at after
  split at after
  next =>
    split at after
    next => cases after
    next => exact ends after (by simp)
  next =>
    split at after
    next => cases after
    next => exact ends after (by simp [IsLegibleOffset])
  next =>
    refine ends after fun known isKnown => ?_
    obtain ⟨found, offsetRead, same⟩ := Option.map_eq_some_iff.mp isKnown
    rw [<- Option.some.inj same]
    exact isLegibleOffset_of_readOffset? offsetRead

theorem dayNumber_of_isValid {date : Date} (valid : date.isValid = true) :
    firstDay <= date.dayNumber ∧ date.dayNumber <= lastDay := by
  simp only [Date.isValid, Bool.and_eq_true, decide_eq_true_eq] at valid
  obtain ⟨⟨⟨⟨⟨someYear, lastYear⟩, someMonth⟩, lastMonth⟩, someDay⟩, lastDay⟩ := valid
  have longest := monthLength_le date.year date.month
  simp only [Date.dayNumber, firstDay, Time.lastDay]
  split <;> omega

theorem inCalendar_of_isValid {date : Date} (valid : date.isValid = true) {time : Int}
    (started : 0 <= time) (short : time < day) :
    inCalendar (date.dayNumber * day + time) = true := by
  obtain ⟨first, last⟩ := dayNumber_of_isValid valid
  rw [inCalendar, Bool.and_eq_true, decide_eq_true_eq, decide_eq_true_eq]
  simp only [firstDay, lastDay, firstWall, lastWall, day, hour, minute, second] at *
  omega

/-- Only legible moments are read. -/
theorem isLegible_of_readIso? {letters : List Char} {moment : Moment}
    (read : readIso? letters = some moment) : moment.IsLegible := by
  unfold readIso? at read
  split at read
  next => cases read
  next =>
    obtain ⟨length, -, after⟩ := Option.bind_eq_some_iff.mp read
    obtain ⟨date, -, after⟩ := Option.bind_eq_some_iff.mp after
    have ends : ∀ {time offset}, 0 <= time -> time < day ->
        (∀ known ∈ offset, IsLegibleOffset known) ->
        (if date.isValid then some { wall := date.dayNumber * day + time, offset : Moment }
          else none) = some moment -> moment.IsLegible := by
      intro time offset started short legible same
      split at same
      next valid =>
        obtain rfl := Option.some.inj same
        exact ⟨inCalendar_of_isValid valid started short, legible⟩
      next => cases same
    dsimp only at after
    split at after
    next => exact ends (by decide) (by decide) (by simp) after
    next =>
      obtain ⟨⟨time, offset⟩, timeRead, after⟩ := Option.bind_eq_some_iff.mp after
      obtain ⟨started, short, legible⟩ := readTime?_spec timeRead
      exact ends started short legible after

end Readings

end SensorAlerting.Time
