import SensorAlerting.Event

set_option autoImplicit false

/-!
Rule conditions. A condition compares the number at a path of an event with a literal, as in
`sensor.reading <= 12.5`.
-/

namespace SensorAlerting

open SensorAlerting.Number SensorAlerting.Text

inductive Comparison where
  | above
  | atLeast
  | below
  | atMost
  | equal
  | unequal
deriving DecidableEq, Repr

namespace Comparison

def symbol : Comparison -> String
  | .above => ">"
  | .atLeast => ">="
  | .below => "<"
  | .atMost => "<="
  | .equal => "=="
  | .unequal => "!="

def holds (comparison : Comparison) (value literal : Float) : Bool :=
  match comparison with
  | .above => decide (literal < value)
  | .atLeast => decide (literal <= value)
  | .below => decide (value < literal)
  | .atMost => decide (value <= literal)
  | .equal => value == literal
  | .unequal => value != literal

end Comparison

structure Condition where
  path : List String
  comparison : Comparison
  literal : Float
  source : String

inductive ConditionFault where
  | invalidFormat (source : String)
  | notText (shown : String)
deriving DecidableEq, Repr

namespace ConditionFault

def reason : ConditionFault -> String
  | .invalidFormat _ => "invalid condition format"
  | .notText _ => "condition must be a string"

def message : ConditionFault -> String
  | .invalidFormat source => (invalidFormat source).reason ++ ": " ++ quoted source
  | .notText shown => (notText shown).reason ++ ": " ++ quoted shown

end ConditionFault

namespace Condition

def field (condition : Condition) : String := ".".intercalate condition.path

def isNameStart (letter : Char) : Bool := isAsciiLetter letter || letter == '_'

def takeName? : List Char -> Option (List Char × List Char)
  | [] => none
  | letter :: rest =>
    if isNameStart letter then some (letter :: rest.takeWhile isWord, rest.dropWhile isWord)
    else none

theorem takeName?_shorter {letters name rest : List Char}
    (taken : takeName? letters = some (name, rest)) : rest.length < letters.length := by
  cases letters with
  | nil => simp [takeName?] at taken
  | cons letter tail =>
    simp only [takeName?] at taken
    split at taken
    next =>
      obtain ⟨-, rfl⟩ := Prod.mk.inj (Option.some.inj taken)
      have shorter := (List.dropWhile_sublist (l := tail) isWord).length_le
      simp only [List.length_cons]
      omega
    next => simp at taken

def takePath? (letters : List Char) : Option (List (List Char) × List Char) :=
  match _taken : takeName? letters with
  | none => none
  | some (name, '.' :: rest) =>
    (takePath? rest).map fun (names, after) => (name :: names, after)
  | some (name, rest) => some ([name], rest)
termination_by letters.length
decreasing_by
  have shorter := takeName?_shorter _taken
  simp only [List.length_cons] at shorter
  omega

/-- A comparison at the start of a text, the longest that fits. -/
def takeComparison? : List Char -> Option (Comparison × List Char)
  | '=' :: '=' :: '=' :: rest => some (.equal, rest)
  | '!' :: '=' :: '=' :: rest => some (.unequal, rest)
  | '>' :: '=' :: rest => some (.atLeast, rest)
  | '<' :: '=' :: rest => some (.atMost, rest)
  | '=' :: '=' :: rest => some (.equal, rest)
  | '!' :: '=' :: rest => some (.unequal, rest)
  | '>' :: rest => some (.above, rest)
  | '<' :: rest => some (.below, rest)
  | _ => none

/-- A number that fills a text: an optional sign, then digits of any script with an optional point
among them. -/
def literal? (letters : List Char) : Option Float :=
  let (negative, rest) := takeSign letters
  let whole := rest.takeWhile isDigit
  let (fraction, after) := match rest.dropWhile isDigit with
    | '.' :: rest => (rest.takeWhile isDigit, rest.dropWhile isDigit)
    | after => ([], after)
  if (whole.isEmpty && fraction.isEmpty) || !after.isEmpty then none
  else some (ofDecimal negative (digitsValue (whole ++ fraction)) (-(fraction.length : Int)))

def compile? (source : String) : Option Condition := do
  let (names, rest) <- takePath? (source.toList.dropWhile isBlank)
  let (comparison, rest) <- takeComparison? (rest.dropWhile isBlank)
  let literal <- literal? (trimBy isBlank rest)
  some { path := names.map String.ofList, comparison, literal, source }

def compile (source : Value) : Except ConditionFault Condition :=
  match source with
  | .text source =>
    match compile? source with
    | some condition => .ok condition
    | none => .error (.invalidFormat source)
  | value => .error (.notText value.literalText)

def toValue (condition : Condition) : Value :=
  .mapping [("path", Value.ofTexts condition.path),
    ("operator", .text condition.comparison.symbol), ("literal", .float condition.literal),
    ("source", .text condition.source), ("field", .text condition.field)]

def extract (condition : Condition) (event : Event) : Except Fault (Option Float) :=
  event.lookupNumber condition.path

def holdsOn (condition : Condition) (event : Event) : Except Fault Bool := do
  match <- condition.extract event with
  | some value => .ok (condition.comparison.holds value condition.literal)
  | none => .ok false

end Condition

end SensorAlerting
