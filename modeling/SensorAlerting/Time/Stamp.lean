import SensorAlerting.Time.Epoch
import SensorAlerting.Time.Iso
import SensorAlerting.Number.Reading

set_option autoImplicit false

/-!
Time stamps in settings and rule definitions: a date, a date and time with an optional offset, or
seconds since 1970. Seconds beyond the watershed count as milliseconds. A text is read byte by
byte. The year 0 can be written but is no year of the calendar.
-/

namespace SensorAlerting.Time

open SensorAlerting.Number SensorAlerting.Text

inductive StampFault where
  | tooShort
  | extraCharacters
  | yearDigits
  | separator
  | monthDigits
  | dayDigits
  | monthRange
  | dayRange
  | tooEarly
  | tooLate
  | yearZero
  | undefined
deriving DecidableEq, Repr

def StampFault.message : StampFault -> String
  | .tooShort => "input is too short"
  | .extraCharacters => "unexpected extra characters at the end of the input"
  | .yearDigits => "invalid character in year"
  | .separator => "invalid date separator, expected \x60-\x60"
  | .monthDigits => "invalid character in month"
  | .dayDigits => "invalid character in day"
  | .monthRange => "month value is outside expected range of 1-12"
  | .dayRange => "day value is outside expected range"
  | .tooEarly => "dates before 0000 are not supported as unix timestamps"
  | .tooLate => "dates after 9999 are not supported as unix timestamps"
  | .yearZero => "year 0 is out of range"
  | .undefined => "NaN values not permitted"

def digitsAt (fault : StampFault) (count : Nat) (letters : List Char) :
    Except StampFault (Nat × List Char) :=
  match takeDigits count letters with
  | some taken => .ok taken
  | none => .error fault

def hyphenAt : List Char -> Except StampFault (List Char)
  | '-' :: rest => .ok rest
  | _ => .error .separator

def stampDate (letters : List Char) : Except StampFault (Date × List Char) := do
  if letters.length < 10 then throw .tooShort
  let (year, rest) <- digitsAt .yearDigits 4 letters
  let rest <- hyphenAt rest
  let (month, rest) <- digitsAt .monthDigits 2 rest
  let rest <- hyphenAt rest
  let (day, rest) <- digitsAt .dayDigits 2 rest
  if month == 0 || 12 < month then throw .monthRange
  if day == 0 || monthLength year month < day then throw .dayRange
  .ok (⟨year, month, day⟩, rest)

def twoDigits? (limit : Nat) (letters : List Char) : Option (Nat × List Char) := do
  let (value, rest) <- takeDigits 2 letters
  if value < limit then some (value, rest) else none

/-- An offset in hours and minutes that fills a text; an empty text has none. -/
def stampOffset? : List Char -> Option (Option Int)
  | [] => some none
  | ['Z'] => some (some 0)
  | ['z'] => some (some 0)
  | sign :: rest =>
    if sign == '+' || sign == '-' then do
      let (hours, rest) <- twoDigits? 24 rest
      let rest := match rest with
        | ':' :: rest => rest
        | _ => rest
      let (minutes, rest) <- twoDigits? 60 rest
      let size := (hours : Int) * hour + (minutes : Int) * minute
      if rest.isEmpty then some (some (if sign == '-' then -size else size)) else none
    else none

def stampFraction? : List Char -> Option (Nat × List Char)
  | mark :: rest =>
    if mark == '.' || mark == ',' then
      let digits := rest.takeWhile isAsciiDigit
      let kept := digits.take 6
      if digits.isEmpty then none
      else some (digitsValue kept * Nat.pow 10 (6 - kept.length), rest.dropWhile isAsciiDigit)
    else some (0, mark :: rest)
  | [] => some (0, [])

def stampTime? (letters : List Char) : Option (Int × Option Int) := do
  let (hours, rest) <- twoDigits? 24 letters
  let (minutes, rest) <-
    match rest with
    | ':' :: rest => twoDigits? 60 rest
    | _ => none
  let (seconds, micros, rest) <-
    match rest with
    | ':' :: rest => do
      let (seconds, rest) <- twoDigits? 60 rest
      let (micros, rest) <- stampFraction? rest
      some (seconds, micros, rest)
    | _ => some (0, 0, rest)
  let offset <- stampOffset? rest
  some (((hours * 3600 + minutes * 60 + seconds : Nat) : Int) * second + micros, offset)

/-- Above this many seconds, milliseconds are meant. -/
def watershed : Int := 20000000000

def inMillis (amount : Int) : Bool := watershed < amount.natAbs

def yearZeroWall : Int := firstWall - 366 * day

def ofTotal (total : Int) : Except StampFault Moment :=
  if total < yearZeroWall then .error .tooEarly
  else if lastWall < total then .error .tooLate
  else if total < firstWall then .error .yearZero
  else .ok (universal total)

/-- A double that is not below zero as the nearest whole number, a half as the next one. -/
def roundHalfUp (x : Float) : Int :=
  let whole := (truncate? x).getD 0
  if x - (ofInt? whole).getD 0 < 0.5 then whole else whole + 1

def floor? (x : Float) : Option Int :=
  (truncate? x).map fun whole => if x < (ofInt? whole).getD 0 then whole - 1 else whole

def ofStampNumber : Quantity -> Except StampFault Moment
  | .whole amount => ofTotal (if inMillis amount then amount * 1000 else amount * second)
  | .real amount =>
    match floor? amount with
    | none => .error (if isUndefined amount then .undefined
        else if amount < 0 then .tooEarly else .tooLate)
    | some floor =>
      let unit := if inMillis floor then 1000 else second
      let fraction := amount - (ofInt? floor).getD 0
      ofTotal (floor * unit + roundHalfUp (fraction * (ofInt? unit).getD 0))

def fitsLong (amount : Int) : Bool :=
  -9223372036854775808 <= amount && amount <= 9223372036854775807

def stampNumber? (letters : List Char) : Option Quantity :=
  let (negative, rest) := takeSign letters
  let digits := rest.takeWhile isAsciiDigit
  let size : Int := digitsValue digits
  let whole := if negative then -size else size
  match rest.dropWhile isAsciiDigit with
  | [] => if digits.isEmpty || !fitsLong whole then none else some (.whole whole)
  | '.' :: fraction =>
    if fraction.all isAsciiDigit && !(digits.isEmpty && fraction.isEmpty) then
      some (.real (ofDecimal negative (digitsValue (digits ++ fraction)) (-fraction.length)))
    else none
  | _ => none

def joinsDateAndTime (letter : Char) : Bool :=
  letter == 'T' || letter == 't' || letter == ' ' || letter == '_'

/-- A number in place of a date. Only whole numbers have faults of their own; another one that is
too large is as bad as no number. -/
def readStampNumber (fault : StampFault) (letters : List Char) : Except StampFault Moment :=
  match stampNumber? letters with
  | none => .error fault
  | some amount =>
    match ofStampNumber amount, amount with
    | .ok moment, _ => .ok moment
    | .error .yearZero, _ => .error .yearZero
    | .error own, .whole _ => .error own
    | .error _, .real _ => .error fault

def inYearZero (date : Date) : Bool := date.year == 0

def readStampBytes (letters : List Char) : Except StampFault Moment :=
  match stampDate letters with
  | .ok (date, rest) =>
    let timed := match rest with
      | [] => some (0, none)
      | mark :: rest => if joinsDateAndTime mark then stampTime? rest else none
    match timed with
    | none => .error .extraCharacters
    | some (time, offset) =>
      if inYearZero date then .error .yearZero
      else .ok { wall := date.dayNumber * day + time, offset }
  | .error fault => readStampNumber fault letters

def byteLetters (content : String) : List Char :=
  content.toUTF8.toList.map fun byte => Char.ofNat byte.toNat

def readStamp (content : String) : Except StampFault Moment := readStampBytes (byteLetters content)

end SensorAlerting.Time
