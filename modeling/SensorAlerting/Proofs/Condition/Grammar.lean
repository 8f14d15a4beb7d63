import SensorAlerting.Condition
import SensorAlerting.Proofs.Text.Runs

set_option autoImplicit false

/-!
The grammar of conditions. A phrase is a condition in its parts: names joined by points, an operator
and a numeral, with blanks around them. Each part says how it is written and what it stands for.
-/

namespace SensorAlerting.Condition

open SensorAlerting.Number SensorAlerting.Text

@[ext]
structure Name where
  first : Char
  rest : Run isWord
  starts : isNameStart first = true

/-- The operators; two comparisons have two of them each. -/
inductive Operator where
  | above
  | atLeast
  | below
  | atMost
  | equal
  | unequal
  | strictlyEqual
  | strictlyUnequal

inductive Sign where
  | plus
  | minus

def fractionDigits (fraction : Option (Run isDigit)) : List Char :=
  (fraction.map Run.letters).getD []

@[ext]
structure Numeral where
  sign : Option Sign
  whole : Run isDigit
  fraction : Option (Run isDigit)
  filled : whole.letters ++ fractionDigits fraction ≠ []

@[ext]
structure Phrase where
  lead : Run isBlank
  first : Name
  others : List Name
  gap : Run isBlank
  operator : Operator
  space : Run isBlank
  numeral : Numeral
  tail : Run isBlank

def Name.letters (name : Name) : List Char := name.first :: name.rest.letters

def joined : Name -> List Name -> List Char
  | name, [] => name.letters
  | name, other :: others => name.letters ++ '.' :: joined other others

namespace Operator

def letters : Operator -> List Char
  | .above => ['>']
  | .atLeast => ['>', '=']
  | .below => ['<']
  | .atMost => ['<', '=']
  | .equal => ['=', '=']
  | .unequal => ['!', '=']
  | .strictlyEqual => ['=', '=', '=']
  | .strictlyUnequal => ['!', '=', '=']

def comparison : Operator -> Comparison
  | .above => .above
  | .atLeast => .atLeast
  | .below => .below
  | .atMost => .atMost
  | .equal | .strictlyEqual => .equal
  | .unequal | .strictlyUnequal => .unequal

end Operator

def Sign.letter : Sign -> Char
  | .plus => '+'
  | .minus => '-'

def signLetters (sign : Option Sign) : List Char := (sign.map Sign.letter).toList

def pointLetters : Option (Run isDigit) -> List Char
  | none => []
  | some digits => '.' :: digits.letters

namespace Numeral

variable (numeral : Numeral)

def unsignedLetters : List Char := numeral.whole.letters ++ pointLetters numeral.fraction

def letters : List Char := signLetters numeral.sign ++ numeral.unsignedLetters

def isNegative : Bool :=
  match numeral.sign with
  | some .minus => true
  | _ => false

/-- The double nearest to the number that the digits make, all of them over as many tens as there
are behind the point. -/
def value : Float :=
  ofQuotient numeral.isNegative
    (digitsValue (numeral.whole.letters ++ fractionDigits numeral.fraction))
    (Nat.pow 10 (fractionDigits numeral.fraction).length)

end Numeral

namespace Phrase

variable (phrase : Phrase)

def names : List Name := phrase.first :: phrase.others

def operand : List Char :=
  phrase.space.letters ++ (phrase.numeral.letters ++ phrase.tail.letters)

def afterPath : List Char :=
  phrase.gap.letters ++ (phrase.operator.letters ++ phrase.operand)

def letters : List Char :=
  phrase.lead.letters ++ (joined phrase.first phrase.others ++ phrase.afterPath)

def text : String := String.ofList phrase.letters

def condition : Condition where
  path := phrase.names.map fun name => String.ofList name.letters
  comparison := phrase.operator.comparison
  literal := phrase.numeral.value
  source := phrase.text

end Phrase

section Kinds

theorem isWord_of_isNameStart {letter : Char} (starts : isNameStart letter = true) :
    isWord letter = true := by
  simp only [isNameStart, Bool.or_eq_true, beq_iff_eq] at starts
  have small : letter.toNat < 128 := by
    rcases starts with isLetter | rfl
    next =>
      rw [isAsciiLetter_iff] at isLetter
      omega
    next => decide
  rcases starts with isLetter | rfl <;> simp_all [isWord]

theorem isBlank_of_isNameStart {letter : Char} (starts : isNameStart letter = true) :
    isBlank letter = false :=
  blank_apart_word.symm letter (isWord_of_isNameStart starts)

theorem blank_apart_mark {mark : Char} (noBlank : isBlank mark = false) :
    Apart isBlank fun letter => letter == mark := by
  intro letter blank
  rw [beq_eq_false_iff_ne]
  rintro rfl
  rw [blank] at noBlank
  cases noBlank

def isPathLetter (letter : Char) : Bool := isWord letter || letter == '.'

theorem blank_apart_path : Apart isBlank isPathLetter := by
  intro letter blank
  have pointNoBlank : isBlank '.' = false := by decide +kernel
  have noPoint := blank_apart_mark pointNoBlank letter blank
  simp [isPathLetter, blank_apart_word letter blank, noPoint]

def isNumeralLetter (letter : Char) : Bool :=
  isDigit letter || letter == '.' || letter == '+' || letter == '-'

theorem numeral_apart_blank : Apart isNumeralLetter isBlank := by
  intro letter isNumeral
  simp only [isNumeralLetter, Bool.or_eq_true, beq_iff_eq] at isNumeral
  obtain ((digit | rfl) | rfl) | rfl := isNumeral
  next => exact digit_apart_blank letter digit
  all_goals decide +kernel

theorem isDigit_point : isDigit '.' = false := by decide +kernel

end Kinds

namespace Numeral

theorem isDigit_or_point {numeral : Numeral} {letter : Char}
    (member : letter ∈ numeral.unsignedLetters) : isDigit letter = true ∨ letter = '.' := by
  rcases List.mem_append.mp member with front | back
  next => exact .inl (numeral.whole.only letter front)
  next =>
    cases behind : numeral.fraction with
    | none => simp [behind, pointLetters] at back
    | some digits =>
      rw [behind] at back
      exact (List.mem_cons.mp back).symm.imp_left (digits.only letter)

theorem unsignedLetters_ne_nil (numeral : Numeral) : numeral.unsignedLetters ≠ [] := by
  intro empty
  obtain ⟨noWhole, noPoint⟩ := List.append_eq_nil_iff.mp empty
  refine numeral.filled ?_
  cases behind : numeral.fraction with
  | none => simp [noWhole, fractionDigits]
  | some digits => simp [behind, pointLetters] at noPoint

def run (numeral : Numeral) : Run isNumeralLetter where
  letters := numeral.letters
  only := by
    intro letter member
    rcases List.mem_append.mp member with signs | digits
    next =>
      obtain ⟨sign, -, rfl⟩ : ∃ sign, numeral.sign = some sign ∧ sign.letter = letter := by
        simpa [signLetters] using signs
      cases sign <;> decide +kernel
    next => rcases isDigit_or_point digits with digit | rfl <;> simp_all [isNumeralLetter]

theorem run_filled (numeral : Numeral) : numeral.run.letters ≠ [] := by
  simp [run, letters, numeral.unsignedLetters_ne_nil]

end Numeral

section Boundaries

theorem stops_joined (first : Name) (others : List Name) (rest : List Char) :
    Stops isBlank (joined first others ++ rest) := by
  cases others <;> exact stops_cons.mpr (isBlank_of_isNameStart first.starts)

theorem stops_operator (operator : Operator) (rest : List Char) :
    Stops isBlank (operator.letters ++ rest) := by
  cases operator <;> exact stops_cons.mpr (by decide +kernel)

variable (phrase : Phrase)

theorem stops_afterPath : Stops isPathLetter phrase.afterPath := by
  refine phrase.gap.stops_append blank_apart_path ?_
  cases phrase.operator <;> exact stops_cons.mpr (by decide +kernel)

theorem stops_operand : Stops (fun letter => letter == '=') phrase.operand := by
  refine phrase.space.stops_append (blank_apart_mark (by decide +kernel)) ?_
  refine phrase.numeral.run.stops_filled ?_ phrase.numeral.run_filled _
  intro letter isNumeral
  rw [beq_eq_false_iff_ne]
  rintro rfl
  revert isNumeral
  decide +kernel

end Boundaries

end SensorAlerting.Condition
