import SensorAlerting.Value
import SensorAlerting.Json.Reader
import SensorAlerting.Text.Split

set_option autoImplicit false

/-!
What plain scalars stand for: nothing, flags, numbers, dates and moments in their usual spellings,
and else the text itself. Numbers may have underscores in them, and colons for base sixty.
-/

namespace SensorAlerting.Yaml

open SensorAlerting.Number SensorAlerting.Text SensorAlerting.Time

/-- Why a text cannot be read. Most faults other than `malformed` are of a scalar: it spells a
number, a date or a character that does not exist, or not what its tag says. Collections may lie
too deep inside one another. -/
inductive YamlFault where
  | malformed
  | tooDeep
  | noSuchValue
  | emptyNumber
  | notFlag
  | notMoment
  | momentOfMapping
deriving DecidableEq, Repr

def nullWords : List String := ["", "~", "null", "Null", "NULL"]

def trueWords : List String :=
  ["yes", "Yes", "YES", "true", "True", "TRUE", "on", "On", "ON"]

def falseWords : List String :=
  ["no", "No", "NO", "false", "False", "FALSE", "off", "Off", "OFF"]

def infinityWords : List String := [".inf", ".Inf", ".INF"]

def undefinedWords : List String := [".nan", ".NaN", ".NAN"]

def flagOf? (content : String) : Option Bool :=
  if trueWords.contains content then some true
  else if falseWords.contains content then some false
  else none

def isDigitOrBar (letter : Char) : Bool := isAsciiDigit letter || letter == '_'

def dropBars (letters : List Char) : List Char := letters.filter fun letter => letter != '_'

def startsWithDigit (letters : List Char) : Bool := letters.head?.any isAsciiDigit

def splitColons (letters : List Char) : List (List Char) := splitRuns ':' letters

def isSixtieth (digits : List Char) : Bool :=
  digits.all isAsciiDigit &&
    match digits with
    | [_] => true
    | [tens, _] => tens <= '5'
    | _ => false

/-- A number in digits of a base, which must not be all underscores. -/
def basedNumber? (base : Nat) (digits : List Char) : Except YamlFault Nat :=
  let digits := dropBars digits
  if digits.isEmpty then .error .noSuchValue
  else .ok <| digits.foldl
    (fun value digit => base * value + (Json.hexValue? digit).getD 0) 0

def sixties (runs : List (List Char)) : Except YamlFault Nat :=
  runs.foldlM (fun value run =>
    let digits := dropBars run
    if digitLimit < digits.length then .error .noSuchValue
    else .ok (60 * value + digitsValue digits)) 0

def isHex (letter : Char) : Bool := (Json.hexValue? letter).isSome || letter == '_'

def unsigned? (letters : List Char) : Option (Except YamlFault Nat) :=
  match letters with
  | ['0'] => some (.ok 0)
  | '0' :: 'b' :: rest =>
    if !rest.isEmpty && rest.all fun letter => letter == '0' || letter == '1' || letter == '_' then
      some (basedNumber? 2 rest)
    else none
  | '0' :: 'x' :: rest =>
    if !rest.isEmpty && rest.all isHex then some (basedNumber? 16 rest) else none
  | '0' :: rest =>
    if rest.all fun letter => ('0' <= letter && letter <= '7') || letter == '_' then
      some (basedNumber? 8 letters)
    else none
  | _ =>
    if !startsWithDigit letters then none
    else match splitColons letters with
    | [] => none
    | first :: rest =>
      if first.all isDigitOrBar && rest.all isSixtieth then some (sixties (first :: rest))
      else none

def whole? (letters : List Char) : Option (Except YamlFault Value) :=
  let (negative, rest) := takeSign letters
  (unsigned? rest).map fun outcome => outcome.map fun size =>
    .int (if negative then -(size : Int) else size)

def isSignedExponent : List Char -> Bool
  | [] => true
  | mark :: sign :: digits =>
    (mark == 'e' || mark == 'E') && (sign == '+' || sign == '-') && !digits.isEmpty &&
      digits.all isAsciiDigit
  | _ => false

def isPointed (letters : List Char) : Bool :=
  match letters.dropWhile isDigitOrBar with
  | '.' :: rest => isSignedExponent (rest.dropWhile isDigitOrBar)
  | _ => false

def isPointedSixties (runs : List (List Char)) : Bool :=
  match runs, runs.getLast? with
  | first :: rest, some last =>
    !rest.isEmpty && first.all isDigitOrBar && rest.dropLast.all isSixtieth &&
      isSixtieth (last.takeWhile fun letter => letter != '.') &&
      match last.dropWhile fun letter => letter != '.' with
      | '.' :: fraction => fraction.all isDigitOrBar
      | _ => false
  | _, _ => false

def sumSixties : Nat -> Float -> List Float -> Float
  | _, sum, [] => sum
  | base, sum, digit :: rest =>
    sumSixties (60 * base) (sum + digit * (ofInt? base).getD 0) rest

def unsignedDouble? (letters : List Char) : Option Float :=
  let runs := splitColons letters
  if infinityWords.contains (String.ofList letters) then some positiveInfinity
  else if startsWithDigit letters && isPointed letters then readAsciiFloat? (dropBars letters)
  else if startsWithDigit letters && isPointedSixties runs then
    some (sumSixties 1 0 (runs.reverse.map fun run => (readAsciiFloat? (dropBars run)).getD 0))
  else none

def double? (letters : List Char) : Option Value :=
  let (negative, rest) := takeSign letters
  if undefinedWords.contains (String.ofList letters) then some (.float undefinedFloat)
  else match letters with
  | '.' :: fraction =>
    if startsWithDigit fraction && isPointed letters then
      (readAsciiFloat? (dropBars letters)).map .float
    else (unsignedDouble? letters).map .float
  | _ => (unsignedDouble? rest).map fun size => .float (if negative then -size else size)

def digitRun? (least most : Nat) (letters : List Char) : Option (Nat × List Char) :=
  let digits := (letters.takeWhile isAsciiDigit).take most
  if digits.length < least then none
  else some (digitsValue digits, letters.drop digits.length)

def after? (letter : Char) : List Char -> Option (List Char)
  | [] => none
  | first :: rest => if first == letter then some rest else none

def dateParts? (least : Nat) (letters : List Char) : Option (Date × List Char) := do
  let (year, rest) <- digitRun? 4 4 letters
  let (month, rest) <- digitRun? least 2 (<- after? '-' rest)
  let (day, rest) <- digitRun? least 2 (<- after? '-' rest)
  some ({ year := year, month, day }, rest)

/-- A clock time in microseconds, as far as it is one; further digits of a fraction are cut. -/
def clock? (letters : List Char) : Option (Except YamlFault Int × List Char) := do
  let (hours, rest) <- digitRun? 1 2 letters
  let (minutes, rest) <- digitRun? 2 2 (<- after? ':' rest)
  let (seconds, rest) <- digitRun? 2 2 (<- after? ':' rest)
  let (fraction, rest) := match rest with
    | '.' :: rest => (rest.takeWhile isAsciiDigit, rest.dropWhile isAsciiDigit)
    | _ => ([], rest)
  let micros := digitsValue ((fraction ++ zeros 6).take 6)
  let total := hours * hour + minutes * minute + seconds * second + micros
  some (if hours < 24 && minutes < 60 && seconds < 60 then .ok total else .error .noSuchValue,
    rest)

def isYamlBlank (letter : Char) : Bool := letter == ' ' || letter == '\t'

def zone? (letters : List Char) : Option (Except YamlFault (Option Int)) :=
  match letters, letters.dropWhile isYamlBlank with
  | [], _ => some (.ok none)
  | _, ['Z'] => some (.ok (some 0))
  | _, sign :: rest => do
    if sign != '+' && sign != '-' then none
    let (hours, rest) <- digitRun? 1 2 rest
    let minutes <- match rest with
      | [] => some 0
      | ':' :: rest => (digitRun? 2 2 rest).bind fun (minutes, rest) =>
        if rest.isEmpty then some minutes else none
      | _ => none
    let size := hours * hour + minutes * minute
    some (if size < day then .ok (some (if sign == '-' then -size else size))
      else .error .noSuchValue)
  | _, [] => none

def dropMiddle? (letters : List Char) : Option (List Char) :=
  match letters with
  | 'T' :: rest | 't' :: rest => some rest
  | letter :: _ =>
    if isYamlBlank letter then some (letters.dropWhile isYamlBlank) else none
  | [] => none

def momentOf? (letters : List Char) : Option (Except YamlFault Value) := do
  let (date, rest) <- dateParts? 1 letters
  let (clock, rest) <- clock? (<- dropMiddle? rest)
  let zone <- zone? rest
  some do
    let clock <- clock
    let offset <- zone
    if date.isValid then .ok (.moment { wall := date.dayNumber * day + clock, offset })
    else .error .noSuchValue

def dateOf? (letters : List Char) : Option (Except YamlFault Value) :=
  match dateParts? 2 letters with
  | some (date, []) => some (if date.isValid then .ok (.date date) else .error .noSuchValue)
  | _ => none

/-- Scalars that stand for something only as keys of mappings, and marks that stand for nothing. -/
def keyWords : List String := ["<<", "=", "!", "&", "*"]

def spelled? (content : String) : Option (Except YamlFault Value) :=
  let letters := content.toList
  (flagOf? content).map (fun flag => .ok (.bool flag)) |>.or <|
    ((double? letters).map .ok).or <| (whole? letters).or <|
      (if nullWords.contains content then some (.ok .null) else none).or <|
        (dateOf? letters).or (momentOf? letters)

def plainValue (content : String) : Except YamlFault Value :=
  if keyWords.contains content then .error .malformed
  else (spelled? content).getD (.ok (.text content))

end SensorAlerting.Yaml
