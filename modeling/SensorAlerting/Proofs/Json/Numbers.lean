import SensorAlerting.Json.Reader
import SensorAlerting.Json.Writer
import SensorAlerting.Proofs.Number.Decimal
import SensorAlerting.Proofs.Text.Runs
import SensorAlerting.Value.Use

set_option autoImplicit false

/-!
Numbers in JSON are read as they were written. Whole numbers are written in all their digits; a
double is written with its shortest digits, with a point among them or with an exponent, and in each
of these notations the reader takes the same decimal from them.
-/

namespace SensorAlerting.Json

open Float.Model UnpackedFloat SensorAlerting.Number SensorAlerting.Text

/-- What can come after a value: nothing, or the comma or closing bracket behind it. -/
def Follows (rest : List Char) : Prop := ∀ mark ∈ rest.head?, mark ∈ [',', ']', '\x7d']

section Parts

variable {letters rest : List Char}

theorem Follows.stops {kind : Char -> Bool} (follows : Follows rest)
    (other : [',', ']', '\x7d'].all (fun mark => !kind mark) = true) : Stops kind rest :=
  fun mark first => by simpa using List.all_eq_true.mp other mark (follows mark first)

theorem takeFraction_none (stops : Stops (fun letter => letter == '.') rest) :
    takeFraction rest = ([], rest) := by
  unfold takeFraction
  split
  next after => simp [Stops] at stops
  next => rfl

theorem takeFraction_point (digits : Run isAsciiDigit) (some : digits.letters ≠ [])
    (stops : Stops isAsciiDigit rest) :
    takeFraction ('.' :: (digits.letters ++ rest)) = (digits.letters, rest) := by
  have filled : digits.letters.isEmpty = false := by simpa using some
  simp only [takeFraction, digits.takeWhile_append stops, digits.dropWhile_append stops, filled,
    Bool.false_eq_true, if_false]

theorem takeExponent_none (stops : Stops (fun letter => letter == 'e' || letter == 'E') rest) :
    takeExponent rest = (none, rest) := by
  cases rest with
  | nil => rfl
  | cons mark after =>
    have other := stops_cons.mp stops
    simp [takeExponent, other]

theorem takeSign_exponent (exponent : Int) (letters : List Char) :
    takeSign ((if exponent < 0 then '-' else '+') :: letters) =
      (decide (exponent < 0), letters) := by
  split_ifs with negative <;> simp [takeSign, negative]

theorem exists_exponentText (exponent : Int) : ∃ digits : Run isAsciiDigit,
    exponentText exponent = 'e' :: (if exponent < 0 then '-' else '+') :: digits.letters ∧
      digits.letters ≠ [] ∧ digitsValue digits.letters = exponent.natAbs := by
  have only : ∀ letter ∈ natChars exponent.natAbs, isAsciiDigit letter = true :=
    fun _ member => isAsciiDigit_of_mem_natChars member
  have value := digitsValue_natChars exponent.natAbs
  by_cases short : (natChars exponent.natAbs).length < 2
  next =>
    refine ⟨⟨'0' :: natChars exponent.natAbs, List.forall_mem_cons.mpr ⟨rfl, only⟩⟩, ?_,
      List.cons_ne_nil _ _, (digitsValue_zeros_append 1 _).trans value⟩
    exact congrArg (fun digits => 'e' :: (if exponent < 0 then '-' else '+') :: digits)
      (if_pos short)
  next =>
    refine ⟨⟨natChars exponent.natAbs, only⟩, ?_,
      List.ne_nil_of_length_pos Nat.length_toDigits_pos, value⟩
    exact congrArg (fun digits => 'e' :: (if exponent < 0 then '-' else '+') :: digits)
      (if_neg short)

theorem takeExponent_exponentText (exponent : Int) (stops : Stops isAsciiDigit rest) :
    takeExponent (exponentText exponent ++ rest) = (some exponent, rest) := by
  obtain ⟨digits, text, some, value⟩ := exists_exponentText exponent
  have filled : digits.letters.isEmpty = false := by simpa using some
  have signed : (if decide (exponent < 0) = true then -(exponent.natAbs : Int)
      else exponent.natAbs) = exponent := by
    split_ifs with negative <;> simp only [decide_eq_true_eq] at negative <;> omega
  rw [text, List.cons_append, List.cons_append]
  simp only [takeExponent, takeSign_exponent, digits.takeWhile_append stops,
    digits.dropWhile_append stops, filled, value, signed]
  rfl

end Parts

section Whole

/-- The part of a number before its point: a nought, or digits that do not begin with one. -/
inductive IsWhole : List Char -> Prop where
  | nought : IsWhole ['0']
  | digits {first : Char} {more : List Char} (other : first ≠ '0')
      (only : ∀ digit ∈ first :: more, isAsciiDigit digit = true) : IsWhole (first :: more)

theorem isWhole_natChars (value : Nat) : IsWhole (natChars value) := by
  by_cases some : value = 0
  next => exact some ▸ .nought
  next =>
    obtain ⟨first, more, begins, other⟩ := exists_first_natChars some
    refine begins ▸ .digits other fun digit member => ?_
    rw [<- begins] at member
    exact isAsciiDigit_of_mem_natChars member

variable {whole : List Char}

theorem IsWhole.exists_first (isWhole : IsWhole whole) :
    ∃ first more, whole = first :: more ∧ isAsciiDigit first = true := by
  cases isWhole with
  | nought => exact ⟨'0', [], rfl, rfl⟩
  | digits other only => exact ⟨_, _, rfl, only _ List.mem_cons_self⟩

theorem readNumber_eq (negative : Bool) (isWhole : IsWhole whole) {tail after rest : List Char}
    {fraction : List Char} {exponent : Option Int} (stops : Stops isAsciiDigit tail)
    (fractionTaken : takeFraction tail = (fraction, after))
    (exponentTaken : takeExponent after = (exponent, rest)) :
    readNumber negative (whole ++ tail) =
      if fraction.isEmpty && exponent.isNone then
        if digitLimit < whole.length then .error .tooManyDigits
        else .ok (.int (if negative then -(digitsValue whole : Int) else digitsValue whole), rest)
      else .ok (.float (ofDecimal negative (digitsValue (whole ++ fraction))
        (exponent.getD 0 - fraction.length)), rest) := by
  cases isWhole with
  | nought => simp [readNumber, fractionTaken, exponentTaken]
  | digits other only =>
    have taken := Run.takeWhile_append ⟨_, only⟩ stops
    unfold readNumber
    split
    next same => exact absurd (List.cons.inj same).1 other
    next => simp only [taken, List.isEmpty_cons, Bool.false_eq_true, if_false, List.drop_left,
      fractionTaken, exponentTaken]

theorem readNumber_natChars (negative : Bool) (value : Nat) {rest : List Char}
    (follows : Follows rest) (short : (natChars value).length <= digitLimit) :
    readNumber negative (natChars value ++ rest) =
      .ok (.int (if negative then -(value : Int) else value), rest) := by
  have stops : Stops isAsciiDigit rest := follows.stops (by decide)
  rw [readNumber_eq negative (isWhole_natChars value) stops
    (takeFraction_none (follows.stops (by decide))) (takeExponent_none (follows.stops (by decide))),
    if_neg (Nat.not_lt.mpr short), digitsValue_natChars]
  rfl

end Whole

section Notations

structure Notes (letters : List Char) (q : Rat) : Prop where
  begins : ∃ first more, letters = first :: more ∧ isAsciiDigit first = true
  read : ∀ (negative : Bool) {rest : List Char}, Follows rest ->
    ∃ (digits : Nat) (power : Int), (digits : Rat) * 10 ^ power = q ∧
      readNumber negative (letters ++ rest) = .ok (.float (ofDecimal negative digits power), rest)

variable {whole fraction : List Char} {q : Rat}

theorem notes_point (isWhole : IsWhole whole) (some : fraction ≠ [])
    (only : ∀ digit ∈ fraction, isAsciiDigit digit = true)
    (value : (digitsValue (whole ++ fraction) : Rat) * 10 ^ (-fraction.length : Int) = q) :
    Notes (whole ++ '.' :: fraction) q where
  begins := by
    obtain ⟨first, more, rfl, digit⟩ := isWhole.exists_first
    exact ⟨first, _, rfl, digit⟩
  read negative rest follows := by
    refine ⟨_, _, value, ?_⟩
    have stops : Stops isAsciiDigit rest := follows.stops (by decide)
    have read := readNumber_eq negative isWhole (stops_cons.mpr (by decide))
      (takeFraction_point (⟨fraction, only⟩ : Run isAsciiDigit) some stops)
      (takeExponent_none (follows.stops (by decide)))
    have filled : fraction.isEmpty = false := by simpa using some
    rw [List.append_assoc, List.cons_append, read, filled]
    simp

theorem notes_exponent (isWhole : IsWhole whole)
    (only : ∀ digit ∈ fraction, isAsciiDigit digit = true) (exponent : Int)
    (value : (digitsValue (whole ++ fraction) : Rat) * 10 ^ (exponent - fraction.length) = q) :
    Notes (whole ++ (if fraction = [] then [] else '.' :: fraction) ++ exponentText exponent)
      q where
  begins := by
    obtain ⟨first, more, rfl, digit⟩ := isWhole.exists_first
    exact ⟨first, _, rfl, digit⟩
  read negative rest follows := by
    refine ⟨_, _, value, ?_⟩
    have stops : Stops isAsciiDigit rest := follows.stops (by decide)
    have taken := takeExponent_exponentText exponent stops
    generalize scale : exponentText exponent ++ rest = tail at taken
    obtain ⟨more, begins⟩ : ∃ more, tail = 'e' :: more := ⟨_, scale.symm⟩
    by_cases none : fraction = []
    next =>
      subst none
      have read := readNumber_eq negative isWhole (begins ▸ stops_cons.mpr (by decide))
        (takeFraction_none (begins ▸ stops_cons.mpr (by decide))) taken
      rw [if_pos rfl, List.append_nil, List.append_assoc, scale, read]
      simp
    next =>
      have read := readNumber_eq negative isWhole (stops_cons.mpr (by decide))
        (takeFraction_point (⟨fraction, only⟩ : Run isAsciiDigit) none
          (begins ▸ stops_cons.mpr (by decide))) taken
      rw [if_neg none, List.append_assoc, List.append_assoc, List.cons_append, scale, read]
      simp

variable {written : Digits}

theorem notes_before (writes : written.Writes q) (before : written.point <= 0) :
    Notes ('0' :: '.' :: (zeros (-written.point).toNat ++ written.digits)) q := by
  obtain ⟨first, more, begins, other⟩ := writes.first
  refine notes_point .nought ?_ ?_ ?_
  next => simp [begins]
  next =>
    intro digit member
    rcases List.mem_append.mp member with nought | later
    next => exact List.eq_of_mem_replicate nought ▸ rfl
    next => exact writes.only digit later
  next =>
    have noughts : ['0'] ++ (zeros (-written.point).toNat ++ written.digits) =
        zeros ((-written.point).toNat + 1) ++ written.digits := rfl
    have place : -((zeros (-written.point).toNat ++ written.digits).length : Int) =
        written.point - written.digits.length := by
      simp only [zeros, List.length_append, List.length_replicate]
      omega
    rw [noughts, digitsValue_zeros_append, place, writes.value]

theorem notes_beyond (writes : written.Writes q) (beyond : written.digits.length <= written.point) :
    Notes (written.digits ++ zeros (written.point - written.digits.length).toNat ++ ['.', '0'])
      q := by
  obtain ⟨first, more, begins, other⟩ := writes.first
  have isWhole : IsWhole
      (written.digits ++ zeros (written.point - written.digits.length).toNat) := by
    rw [begins, List.cons_append]
    refine .digits other fun digit member => ?_
    rw [<- List.cons_append, <- begins] at member
    rcases List.mem_append.mp member with earlier | nought
    next => exact writes.only digit earlier
    next => exact List.eq_of_mem_replicate nought ▸ rfl
  refine notes_point isWhole (List.cons_ne_nil _ _) (List.forall_mem_singleton.mpr rfl) ?_
  obtain ⟨count, isCount⟩ : ∃ count : Nat, written.point - written.digits.length = count :=
    ⟨(written.point - written.digits.length).toNat, by omega⟩
  have noughts : digitsValue (zeros count ++ ['0']) = 0 := digitsValue_zeros_append count ['0']
  have length : (zeros count ++ ['0']).length = count + 1 := by simp [zeros]
  rw [isCount, Int.toNat_natCast, List.append_assoc, digitsValue_append, noughts, length,
    <- writes.value, isCount]
  push_cast
  rw [List.length_singleton, Nat.cast_one, zpow_natCast, zpow_neg, zpow_one]
  ring

theorem notes_among (writes : written.Writes q) (some : 0 < written.point)
    (among : written.point < written.digits.length) :
    Notes (written.digits.take written.point.toNat ++
      '.' :: written.digits.drop written.point.toNat) q := by
  obtain ⟨first, more, begins, other⟩ := writes.first
  obtain ⟨count, isCount⟩ : ∃ count : Nat, written.point = count + 1 :=
    ⟨written.point.toNat - 1, by omega⟩
  have place : written.point.toNat = count + 1 := by omega
  have isWhole : IsWhole (written.digits.take written.point.toNat) := by
    have only := fun digit (member : digit ∈ written.digits.take written.point.toNat) =>
      writes.only digit (List.mem_of_mem_take member)
    rw [place, begins, List.take_succ_cons] at only ⊢
    exact .digits other only
  refine notes_point isWhole ?_
    (fun digit member => writes.only digit (List.mem_of_mem_drop member)) ?_
  next =>
    refine List.ne_nil_of_length_pos ?_
    rw [List.length_drop]
    omega
  next =>
    have length : -((written.digits.drop written.point.toNat).length : Int) =
        written.point - written.digits.length := by
      rw [List.length_drop]
      omega
    rw [List.take_append_drop, length, writes.value]

theorem notes_positional (writes : written.Writes q) :
    Notes (positional written ['.', '0']) q := by
  unfold positional
  dsimp only
  split_ifs with before beyond
  next => exact notes_before writes before
  next => exact notes_beyond writes beyond
  next => exact notes_among writes (by omega) (by omega)

theorem notes_scientific (writes : written.Writes q) : Notes (scientific written) q := by
  obtain ⟨first, more, begins, other⟩ := writes.first
  have only := writes.only
  have value := writes.value
  have place : written.point - 1 - (more.length : Int) = written.point - written.digits.length := by
    rw [begins, List.length_cons]
    push_cast
    ring
  rw [begins] at only
  have isWhole : IsWhole [first] :=
    .digits other fun digit member => only digit (List.mem_of_mem_take (i := 1) member)
  have notes := notes_exponent isWhole
    (fun digit member => only digit (List.mem_cons_of_mem _ member)) (written.point - 1)
    (by rw [place, List.singleton_append, <- begins, value])
  have same : scientific written =
      [first] ++ (if more = [] then [] else '.' :: more) ++ exponentText (written.point - 1) := by
    rw [scientific, begins]
    cases more <;> rfl
  rw [same]
  exact notes

end Notations

section Scalars

theorem readScalar_digit {first : Char} (digit : isAsciiDigit first = true) (rest : List Char) :
    readScalar (first :: rest) = readNumber false (first :: rest) := by
  have other : ∀ mark, isAsciiDigit mark = false -> first ≠ mark := by
    rintro mark noDigit rfl
    rw [digit] at noDigit
    cases noDigit
  unfold readScalar
  split
  all_goals first
    | rfl
    | next same => exact absurd (List.cons.inj same).1 (other _ rfl)

theorem readScalar_minus {first : Char} (digit : isAsciiDigit first = true) (rest : List Char) :
    readScalar ('-' :: first :: rest) = readNumber true (first :: rest) := by
  rw [readScalar]
  rintro after same
  obtain rfl := (List.cons.inj same).1
  cases digit

theorem readScalar_signed (negative : Bool) {first : Char} (digit : isAsciiDigit first = true)
    (more rest : List Char) :
    readScalar (signed negative (first :: more) ++ rest) =
      readNumber negative (first :: more ++ rest) := by
  cases negative with
  | false => exact readScalar_digit digit _
  | true => exact readScalar_minus digit _

variable {rest : List Char}

theorem length_natChars_le {value count : Nat} (positive : 0 < count)
    (short : value < Nat.pow 10 count) : (natChars value).length <= count :=
  (Nat.length_toDigits_le_iff (by decide) positive).mpr short

theorem readScalar_intChars {number : Int} (short : Value.isShort number = true)
    (follows : Follows rest) :
    readScalar (intChars number ++ rest) = .ok (.int number, rest) := by
  obtain ⟨first, more, begins, digit⟩ := (isWhole_natChars number.natAbs).exists_first
  have size : (if decide (number < 0) = true then -(number.natAbs : Int) else number.natAbs) =
      number := by
    split_ifs with negative <;> simp only [decide_eq_true_eq] at negative <;> omega
  rw [intChars, begins, readScalar_signed _ digit, <- begins, readNumber_natChars _ _ follows
    (length_natChars_le (by decide) (of_decide_eq_true short)), size]

theorem Notes.readScalar {letters : List Char} {q : Rat} (notes : Notes letters q) (negative : Bool)
    (follows : Follows rest) : ∃ (digits : Nat) (power : Int), (digits : Rat) * 10 ^ power = q ∧
      readScalar (signed negative letters ++ rest) =
        .ok (.float (ofDecimal negative digits power), rest) := by
  obtain ⟨first, more, begins, digit⟩ := notes.begins
  obtain ⟨digits, power, value, read⟩ := notes.read negative follows
  refine ⟨digits, power, value, ?_⟩
  rw [begins, readScalar_signed _ digit, <- begins, read]

theorem notes_nought : Notes ['0', '.', '0'] 0 := by
  have nought : digitsValue ['0', '0'] = 0 := by decide
  refine notes_point .nought (List.cons_ne_nil _ _) (List.forall_mem_singleton.mpr rfl) ?_
  rw [List.singleton_append, nought, Nat.cast_zero, zero_mul]

/-- How a finite double is written, and that it is the nearest to every decimal read from that. -/
theorem exists_notes {x : Float} {sign : Sign} {mantissa : Nat} {exponent : Int}
    (form : Form x sign mantissa exponent) : ∃ letters q, Notes letters q ∧
      floatChars x = signed (isNegative sign) letters ∧ ∀ (digits : Nat) (power : Int),
        (digits : Rat) * 10 ^ power = q -> ofDecimal (isNegative sign) digits power = x := by
  have kind := form.parts
  by_cases none : mantissa = 0
  next =>
    subst none
    refine ⟨_, _, notes_nought, by rw [floatChars, kind]; rfl, fun digits power value => ?_⟩
    obtain rfl : digits = 0 := by
      have positive : (10 : Rat) ^ power ≠ 0 := (ten_pos power).ne'
      exact_mod_cast (mul_eq_zero.mp value).resolve_right positive
    exact form.ofDecimal_zero power
  next =>
    obtain ⟨q, writes, back⟩ := form.shortest none
    refine ⟨if -4 < (shortest mantissa exponent).point &&
        (shortest mantissa exponent).point <= 16 then
          positional (shortest mantissa exponent) ['.', '0']
        else scientific (shortest mantissa exponent), q, ?_, ?_, back⟩
    next =>
      split_ifs
      next => exact notes_positional writes
      next => exact notes_scientific writes
    next =>
      rw [floatChars, kind]
      split
      next same => cases same
      next same => cases same
      next same => exact absurd (Parts.finite.inj same).2.1 none
      next same =>
        obtain ⟨rfl, rfl, rfl⟩ := Parts.finite.inj same
        rfl

theorem readScalar_numberChars (x : Float) (follows : Follows rest) :
    readScalar (numberChars x ++ rest) = .ok (.float x, rest) := by
  cases kind : parts x with
  | undefined =>
    have undefined : isUndefined x = true := by simp [isUndefined, kind]
    have text : numberChars x = "NaN".toList := by simp [numberChars, kind]
    rw [text, eq_undefinedFloat undefined]
    rfl
  | infinite negative =>
    have text : numberChars x = signed negative "Infinity".toList := by simp [numberChars, kind]
    rw [text, eq_of_infinite kind]
    cases negative <;> rfl
  | finite negative mantissa exponent =>
    have finite : Number.isFinite x = true := by simp [Number.isFinite, kind]
    have text : numberChars x = floatChars x := by simp [numberChars, kind]
    obtain ⟨sign, m, e, form⟩ := exists_form finite
    obtain ⟨letters, q, notes, written, back⟩ := exists_notes form
    obtain ⟨digits, power, value, read⟩ := notes.readScalar (isNegative sign) follows
    rw [text, written, read, back digits power value]

def startsScalar (letter : Char) : Bool :=
  isAsciiDigit letter || ['"', '-', 'n', 't', 'f', 'N', 'I'].contains letter

theorem begins_signed (negative : Bool) {letters : List Char}
    (begins : ∃ first more, letters = first :: more ∧ isAsciiDigit first = true) :
    ∃ first more, signed negative letters = first :: more ∧ startsScalar first = true := by
  obtain ⟨first, more, rfl, digit⟩ := begins
  cases negative with
  | false => exact ⟨first, more, rfl, by simp [startsScalar, digit]⟩
  | true => exact ⟨'-', first :: more, rfl, rfl⟩

theorem begins_numberChars (x : Float) :
    ∃ first more, numberChars x = first :: more ∧ startsScalar first = true := by
  cases kind : parts x with
  | undefined => exact ⟨_, _, by rw [numberChars, kind]; rfl, rfl⟩
  | infinite negative =>
    cases negative <;> exact ⟨_, _, by rw [numberChars, kind]; rfl, rfl⟩
  | finite negative mantissa exponent =>
    have text : numberChars x = floatChars x := by simp [numberChars, kind]
    obtain ⟨sign, m, e, form⟩ := exists_form (x := x) (by simp [Number.isFinite, kind])
    obtain ⟨letters, q, notes, written, -⟩ := exists_notes form
    rw [text, written]
    exact begins_signed _ notes.begins

end Scalars

end SensorAlerting.Json
