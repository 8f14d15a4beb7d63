import SensorAlerting.Proofs.Condition.Grammar
import SensorAlerting.Proofs.Number.Quotients

set_option autoImplicit false

namespace SensorAlerting

open SensorAlerting.Number SensorAlerting.Text

namespace Condition

theorem takeName?_append (name : Name) {rest : List Char} (stops : Stops isWord rest) :
    takeName? (name.letters ++ rest) = some (name.letters, rest) := by
  simp [Name.letters, takeName?, name.starts, name.rest.takeWhile_append stops,
    name.rest.dropWhile_append stops]

theorem name_of_takeName? {letters word rest : List Char}
    (taken : takeName? letters = some (word, rest)) :
    ∃ name : Name, word = name.letters ∧ letters = name.letters ++ rest ∧ Stops isWord rest := by
  cases letters with
  | nil => cases taken
  | cons letter more =>
    simp only [takeName?] at taken
    split at taken
    next starts =>
      obtain ⟨rfl, rfl⟩ := Prod.mk.inj (Option.some.inj taken)
      exact ⟨⟨letter, .leading isWord more, starts⟩, rfl,
        congrArg (letter :: ·) List.takeWhile_append_dropWhile.symm, stops_dropWhile isWord more⟩
    next => cases taken

theorem takePath?_joined (first : Name) (others : List Name) {rest : List Char}
    (stops : Stops isPathLetter rest) :
    takePath? (joined first others ++ rest) =
      some ((first :: others).map Name.letters, rest) := by
  induction others generalizing first with
  | nil =>
    have stopsWord : Stops isWord rest := by
      intro letter isFirst
      have := stops letter isFirst
      simp_all [isPathLetter]
    have taken := takeName?_append first stopsWord
    rw [joined, takePath?]
    split
    next missing => simp [missing] at taken
    next name more found =>
      obtain ⟨rfl, rfl⟩ : name = first.letters ∧ '.' :: more = rest := by
        simpa [taken, eq_comm] using found
      simp [stops_cons, isPathLetter] at stops
    next name more noPoint found =>
      obtain ⟨rfl, rfl⟩ : name = first.letters ∧ more = rest := by
        simpa [taken, eq_comm] using found
      rfl
  | cons other others ih =>
    have stopsWord : Stops isWord ('.' :: (joined other others ++ rest)) := by
      rw [stops_cons]
      decide
    have taken := takeName?_append first stopsWord
    rw [joined, List.append_assoc, List.cons_append, takePath?]
    split
    next missing => simp [missing] at taken
    next name more found =>
      obtain ⟨rfl, rfl⟩ : name = first.letters ∧ more = joined other others ++ rest := by
        simpa [taken, eq_comm] using found
      simp [ih]
    next name more noPoint found =>
      obtain ⟨rfl, rfl⟩ : name = first.letters ∧ more = '.' :: (joined other others ++ rest) := by
        simpa [taken, eq_comm] using found
      exact absurd rfl (noPoint _)

theorem joined_of_takePath? {letters rest : List Char} {words : List (List Char)}
    (taken : takePath? letters = some (words, rest)) :
    ∃ first others, letters = joined first others ++ rest := by
  fun_induction takePath? letters generalizing words rest with
  | case1 => cases taken
  | case2 letters word more found ih =>
    obtain ⟨⟨words, after⟩, path, same⟩ := Option.map_eq_some_iff.mp taken
    obtain ⟨-, rfl⟩ := Prod.mk.inj same
    obtain ⟨first, -, isLetters, -⟩ := name_of_takeName? found
    obtain ⟨second, others, isMore⟩ := ih path
    exact ⟨first, second :: others, by simp [isLetters, isMore, joined]⟩
  | case3 letters word more noPoint found =>
    obtain ⟨-, rfl⟩ := Prod.mk.inj (Option.some.inj taken)
    obtain ⟨first, -, isLetters, -⟩ := name_of_takeName? found
    exact ⟨first, [], isLetters⟩

theorem takeComparison?_append (operator : Operator) {rest : List Char}
    (stops : Stops (fun letter => letter == '=') rest) :
    takeComparison? (operator.letters ++ rest) = some (operator.comparison, rest) := by
  cases rest with
  | nil => cases operator <;> rfl
  | cons letter rest =>
    have noEquals : letter ≠ '=' := by simpa [stops_cons] using stops
    cases operator <;> simp [Operator.letters, Operator.comparison, takeComparison?, noEquals]

theorem operator_of_takeComparison? {letters rest : List Char} {comparison : Comparison}
    (taken : takeComparison? letters = some (comparison, rest)) :
    ∃ operator : Operator, letters = operator.letters ++ rest := by
  unfold takeComparison? at taken
  split at taken
  next => exact ⟨.strictlyEqual, by simp_all [Operator.letters]⟩
  next => exact ⟨.strictlyUnequal, by simp_all [Operator.letters]⟩
  next => exact ⟨.atLeast, by simp_all [Operator.letters]⟩
  next => exact ⟨.atMost, by simp_all [Operator.letters]⟩
  next => exact ⟨.equal, by simp_all [Operator.letters]⟩
  next => exact ⟨.unequal, by simp_all [Operator.letters]⟩
  next => exact ⟨.above, by simp_all [Operator.letters]⟩
  next => exact ⟨.below, by simp_all [Operator.letters]⟩
  next => cases taken

theorem takeSign_letters (numeral : Numeral) :
    takeSign numeral.letters = (numeral.isNegative, numeral.unsignedLetters) := by
  have unsigned : takeSign numeral.unsignedLetters = (false, numeral.unsignedLetters) := by
    unfold takeSign
    split
    next rest letters =>
      have noSign : ¬ (isDigit '+' = true ∨ '+' = '.') := by decide +kernel
      exact absurd (numeral.isDigit_or_point (by simp [letters])) noSign
    next rest letters =>
      have noSign : ¬ (isDigit '-' = true ∨ '-' = '.') := by decide +kernel
      exact absurd (numeral.isDigit_or_point (by simp [letters])) noSign
    next => rfl
  unfold Numeral.letters Numeral.isNegative
  rcases numeral.sign with _ | _ | _
  next => exact unsigned
  next => rfl
  next => rfl

theorem literal?_letters (numeral : Numeral) : literal? numeral.letters = some numeral.value := by
  obtain ⟨sign, whole, fraction, filled⟩ := numeral
  rw [literal?, takeSign_letters, Numeral.value, <- ofDecimal_places]
  dsimp only [Numeral.unsignedLetters]
  cases fraction with
  | none =>
    have filled : whole.letters ≠ [] := by simpa [fractionDigits] using filled
    simp [pointLetters, fractionDigits, filled]
  | some digits =>
    have stops : Stops isDigit ('.' :: digits.letters) := stops_cons.mpr isDigit_point
    have filled : whole.letters = [] -> digits.letters ≠ [] := by
      simpa [fractionDigits] using filled
    simpa [pointLetters, fractionDigits, whole.takeWhile_append stops,
      whole.dropWhile_append stops] using filled

theorem numeral_of_literal? {letters : List Char} {value : Float}
    (read : literal? letters = some value) : ∃ numeral : Numeral, letters = numeral.letters := by
  obtain ⟨sign, unsigned, isLetters, taken⟩ : ∃ (sign : Option Sign) (unsigned : List Char),
      letters = (sign.map Sign.letter).toList ++ unsigned ∧ (takeSign letters).2 = unsigned := by
    unfold takeSign
    split
    next rest => exact ⟨some .plus, rest, rfl, rfl⟩
    next rest => exact ⟨some .minus, rest, rfl, rfl⟩
    next => exact ⟨none, letters, rfl, rfl⟩
  unfold literal? at read
  dsimp only at read
  rw [taken] at read
  obtain ⟨whole, after, rfl, stops⟩ := exists_run isDigit unsigned
  rw [whole.takeWhile_append stops, whole.dropWhile_append stops] at read
  split at read
  next behind =>
    obtain ⟨digits, ended, rfl, ends⟩ := exists_run isDigit behind
    dsimp only at read
    rw [digits.takeWhile_append ends, digits.dropWhile_append ends] at read
    split at read
    next => cases read
    next passed =>
      obtain ⟨filled, rfl⟩ : (whole.letters = [] -> digits.letters ≠ []) ∧ ended = [] := by
        simpa using passed
      rw [List.append_nil] at isLetters
      exact ⟨⟨sign, whole, some digits, by simpa [fractionDigits] using filled⟩, isLetters⟩
  next =>
    split at read
    next => cases read
    next passed =>
      obtain ⟨filled, rfl⟩ : whole.letters ≠ [] ∧ after = [] := by simpa using passed
      exact ⟨⟨sign, whole, none, by simpa [fractionDigits] using filled⟩, isLetters⟩

theorem compile?_text (phrase : Phrase) : compile? phrase.text = some phrase.condition := by
  have trimmed : trimBy isBlank phrase.operand = phrase.numeral.letters :=
    trimBy_append phrase.space phrase.tail fun letter member =>
      numeral_apart_blank letter (phrase.numeral.run.only letter member)
  have path : takePath? (phrase.text.toList.dropWhile isBlank) =
      some (phrase.names.map Name.letters, phrase.afterPath) := by
    rw [Phrase.text, String.toList_ofList, Phrase.letters,
      phrase.lead.dropWhile_append (stops_joined _ _ _)]
    exact takePath?_joined _ _ (stops_afterPath phrase)
  have comparison : takeComparison? (phrase.afterPath.dropWhile isBlank) =
      some (phrase.operator.comparison, phrase.operand) := by
    rw [Phrase.afterPath, phrase.gap.dropWhile_append (stops_operator _ _)]
    exact takeComparison?_append _ (stops_operand phrase)
  simp [compile?, path, comparison, trimmed, literal?_letters, Phrase.condition]

theorem phrase_of_compile? {source : String} {condition : Condition}
    (compiled : compile? source = some condition) : ∃ phrase : Phrase, phrase.text = source := by
  unfold compile? at compiled
  simp only [Option.bind_eq_bind, Option.bind_eq_some_iff, Prod.exists] at compiled
  obtain ⟨words, afterPath, path, comparison, operand, compared, value, literal, -⟩ := compiled
  -- Each part of the phrase is what one reader took, in the order in which they read.
  obtain ⟨lead, trimmed, isSource, starts⟩ := exists_run isBlank source.toList
  rw [isSource, lead.dropWhile_append starts] at path
  obtain ⟨first, others, rfl⟩ := joined_of_takePath? path
  obtain ⟨gap, compare, rfl, operates⟩ := exists_run isBlank afterPath
  rw [gap.dropWhile_append operates] at compared
  obtain ⟨operator, rfl⟩ := operator_of_takeComparison? compared
  obtain ⟨space, tail, isOperand⟩ := exists_trimBy isBlank operand
  obtain ⟨numeral, isNumeral⟩ := numeral_of_literal? literal
  refine ⟨{ lead, first, others, gap, operator, space, numeral, tail }, ?_⟩
  rw [isNumeral] at isOperand
  rw [isOperand] at isSource
  rw [Phrase.text, <- @String.ofList_toList source, isSource]
  rfl

theorem Name.letters_injective {name other : Name} (same : name.letters = other.letters) :
    name = other := by
  obtain ⟨sameFirst, sameRest⟩ := List.cons.inj same
  exact Name.ext sameFirst (Run.ext sameRest)

theorem Operator.letters_injective {operator other : Operator}
    (same : operator.letters = other.letters) : operator = other := by
  cases operator <;> cases other <;> first | rfl | cases same

theorem stops_pointLetters (fraction : Option (Run isDigit)) :
    Stops isDigit (pointLetters fraction) := by
  cases fraction with
  | none => exact stops_nil
  | some digits => exact stops_cons.mpr isDigit_point

theorem signLetters_injective {sign other : Option Sign}
    (same : signLetters sign = signLetters other) : sign = other := by
  rcases sign with _ | _ | _ <;> rcases other with _ | _ | _ <;> first | rfl | cases same

theorem pointLetters_injective {fraction other : Option (Run isDigit)}
    (same : pointLetters fraction = pointLetters other) : fraction = other := by
  rcases fraction with _ | digits <;> rcases other with _ | others
  next => rfl
  next => cases same
  next => cases same
  next => exact congrArg some (Run.ext (List.cons.inj same).2)

theorem Numeral.letters_injective {numeral other : Numeral}
    (same : numeral.letters = other.letters) : numeral = other := by
  have unsigned : numeral.unsignedLetters = other.unsignedLetters := by
    have taken := congrArg takeSign same
    rw [takeSign_letters, takeSign_letters] at taken
    exact (Prod.mk.inj taken).2
  obtain ⟨whole, point⟩ := Run.append_inj (stops_pointLetters _) (stops_pointLetters _) unsigned
  rw [Numeral.letters, Numeral.letters, unsigned] at same
  exact Numeral.ext (signLetters_injective (List.append_cancel_right same)) whole
    (pointLetters_injective point)

/-- There is one way only to take a text apart. -/
theorem Phrase.text_injective {phrase other : Phrase} (same : phrase.text = other.text) :
    phrase = other := by
  have letters : phrase.letters = other.letters := String.ofList_injective same
  -- Blanks are maximal runs; path and operator are what their readers find in the common text.
  obtain ⟨lead, afterLead⟩ := Run.append_inj (stops_joined _ _ _) (stops_joined _ _ _) letters
  have path := congrArg takePath? afterLead
  rw [takePath?_joined _ _ (stops_afterPath phrase),
    takePath?_joined _ _ (stops_afterPath other)] at path
  obtain ⟨words, afterPath⟩ := Prod.mk.inj (Option.some.inj path)
  obtain ⟨first, others⟩ := List.cons.inj
    ((List.map_inj_right fun _ _ => Name.letters_injective).mp words)
  obtain ⟨gap, compared⟩ := Run.append_inj (stops_operator _ _) (stops_operator _ _) afterPath
  have comparison := congrArg takeComparison? compared
  rw [takeComparison?_append _ (stops_operand phrase),
    takeComparison?_append _ (stops_operand other)] at comparison
  have operand := (Prod.mk.inj (Option.some.inj comparison)).2
  rw [operand] at compared
  have starts : ∀ phrase : Phrase,
      Stops isBlank (phrase.numeral.letters ++ phrase.tail.letters) := fun phrase =>
    phrase.numeral.run.stops_filled numeral_apart_blank phrase.numeral.run_filled _
  obtain ⟨space, numeral⟩ := Run.append_inj (starts phrase) (starts other) operand
  have ends : ∀ phrase : Phrase, Stops isNumeralLetter phrase.tail.letters := by
    intro phrase
    simpa using phrase.tail.stops_append numeral_apart_blank.symm stops_nil
  have runs : phrase.numeral.run.letters ++ phrase.tail.letters =
      other.numeral.run.letters ++ other.tail.letters := numeral
  obtain ⟨digits, tail⟩ := Run.append_inj (ends phrase) (ends other) runs
  exact Phrase.ext lead first others gap
    (Operator.letters_injective (List.append_cancel_right compared)) space
    (Numeral.letters_injective (congrArg Run.letters digits)) (Run.ext tail)

def Name.run (name : Name) : Run fun letter => letter != '.' where
  letters := name.letters
  only := by
    intro letter member
    have word : isWord letter = true := by
      rcases List.mem_cons.mp member with rfl | later
      next => exact isWord_of_isNameStart name.starts
      next => exact name.rest.only letter later
    have noPoint : isWord '.' = false := by decide
    simp only [bne_iff_ne]
    rintro rfl
    simp [word] at noPoint

theorem splitRuns_joined (first : Name) (others : List Name) :
    splitRuns '.' (joined first others) = (first :: others).map Name.letters := by
  induction others generalizing first with
  | nil => exact splitRuns_letters first.run
  | cons other others ih =>
    rw [joined, List.map_cons, <- ih other]
    exact splitRuns_append first.run _

theorem intercalate_letters (first : Name) (others : List Name) :
    ['.'].intercalate ((first :: others).map Name.letters) = joined first others := by
  induction others generalizing first with
  | nil => simp [joined, List.intercalate]
  | cons other others ih =>
    rw [joined, <- ih other]
    simp [List.intercalate]

theorem splitPath_field (phrase : Phrase) :
    Event.splitPath phrase.condition.field = phrase.condition.path := by
  have letters : phrase.condition.field.toList = joined phrase.first phrase.others := by
    rw [field, String.toList_intercalate, <- intercalate_letters]
    simp [Phrase.condition, Phrase.names, Function.comp_def]
  -- No name is empty, so that nothing is dropped.
  have kept : (fun letters => if letters.isEmpty then none else some (String.ofList letters)) ∘
      Name.letters = some ∘ fun name => String.ofList name.letters := rfl
  rw [Event.splitPath, letters, splitRuns_joined, List.filterMap_map, kept, List.filterMap_eq_map]
  rfl

def Numeral.exact (numeral : Numeral) : Rat :=
  let digits := digitsValue (numeral.whole.letters ++ fractionDigits numeral.fraction)
  let size := (digits : Rat) / (Nat.pow 10 (fractionDigits numeral.fraction).length : Nat)
  if numeral.isNegative then -size else size

theorem isNearest_value (numeral : Numeral) : IsNearest numeral.value numeral.exact :=
  isNearest_ofQuotient _ _ (Nat.pow_pos (by norm_num))

/-- A text is the text of one phrase at most. It compiles to the condition of that phrase if there
is one, and is refused if there is none. -/
theorem compile_by_phrase (source : String) :
    ((∃ condition, compile (.text source) = .ok condition) ↔
      ∃ phrase : Phrase, phrase.text = source) ∧
    (∀ phrase : Phrase, phrase.text = source ->
      (∀ other : Phrase, other.text = source -> other = phrase) ∧
      compile (.text source) = .ok phrase.condition ∧
      IsNearest phrase.condition.literal phrase.numeral.exact ∧
      Event.splitPath phrase.condition.field = phrase.condition.path) ∧
    ((¬ ∃ phrase : Phrase, phrase.text = source) ->
      compile (.text source) = .error (.invalidFormat source)) := by
  have compiles : ∀ phrase : Phrase, phrase.text = source ->
      compile (.text source) = .ok phrase.condition := by
    rintro phrase rfl
    simp [compile, compile?_text]
  refine ⟨⟨?_, ?_⟩, ?_, ?_⟩
  next =>
    rintro ⟨condition, compiled⟩
    cases found : compile? source with
    | none => simp [compile, found] at compiled
    | some condition => exact phrase_of_compile? found
  next =>
    rintro ⟨phrase, isSource⟩
    exact ⟨phrase.condition, compiles phrase isSource⟩
  next =>
    intro phrase isSource
    refine ⟨fun other same => Phrase.text_injective (same.trans isSource.symm),
      compiles phrase isSource, isNearest_value phrase.numeral, splitPath_field phrase⟩
  next =>
    intro noPhrase
    cases found : compile? source with
    | none => simp [compile, found]
    | some condition => exact absurd (phrase_of_compile? found) noPhrase

end Condition

end SensorAlerting
