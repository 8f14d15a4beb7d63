import SensorAlerting.Time.Moment
import SensorAlerting.Text.Word

set_option autoImplicit false

/-!
Reading of ISO 8601 dates and times. Dates are calendar or week dates, with or without hyphens;
any one character may stand between date and time; hours, minutes and seconds may lack their
colons; a fraction follows a point or a comma and is cut after six digits; an offset may have
seconds. Text between the time and a following offset is passed over.
-/

namespace SensorAlerting.Time

open SensorAlerting.Text

def takeDigits : Nat -> List Char -> Option (Nat × List Char)
  | 0, letters => some (0, letters)
  | _ + 1, [] => none
  | count + 1, letter :: rest =>
    if isAsciiDigit letter then
      (takeDigits count rest).map fun (value, after) =>
        ((letter.toNat - 48) * Nat.pow 10 count + value, after)
    else none

def dateLength (letters : List Char) : Option Nat :=
  if letters.length == 7 then some 7
  else match letters.drop 4 with
  | '-' :: 'W' :: _ =>
    match letters.drop 8 with
    | '-' :: _ :: digit :: _ => some (if isAsciiDigit digit then 8 else 10)
    | ['-'] => none
    | '-' :: _ => some 10
    | _ => some 8
  | '-' :: _ => some 10
  | 'W' :: _ =>
    let stop := 7 + ((letters.drop 7).takeWhile isAsciiDigit).length
    some (if stop < 9 then stop else if stop % 2 == 0 then 7 else 8)
  | _ => some 8

def readDate? (letters : List Char) : Option Date := do
  let (year, rest) <- takeDigits 4 letters
  let hyphens := rest.head? == some '-'
  let rest := if hyphens then rest.drop 1 else rest
  let hyphen := fun (letters : List Char) =>
    if hyphens then (match letters with
      | '-' :: rest => some rest
      | _ => none)
    else some letters
  match rest with
  | 'W' :: rest =>
    let (week, rest) <- takeDigits 2 rest
    if rest.isEmpty then ofWeek? year week 1
    else
      let (day, _) <- takeDigits 1 (<- hyphen rest)
      ofWeek? year week day
  | _ =>
    let (month, rest) <- takeDigits 2 rest
    let (day, rest) <- takeDigits 2 (<- hyphen rest)
    if rest.isEmpty then some ⟨year, month, day⟩ else none

/-- Whether a text goes on; a null character ends it. -/
def goesOn : List Char -> Bool
  | [] => false
  | letter :: _ => letter != '\x00'

def readFraction? (letters : List Char) : Option (Nat × Bool) := do
  let count := min 6 letters.length
  let (value, rest) <- takeDigits count letters
  some (value * Nat.pow 10 (6 - count), goesOn (rest.dropWhile isAsciiDigit))

/-- Up to `fields` two-digit fields and a fraction: the fields, the fraction in microseconds, and
whether something was left over, of which a single character of ASCII may stand alone. Whether
fields are separated is settled after the first. -/
def readFields? : Nat -> Option Bool -> List Char -> Option (List Nat × Nat × Bool)
  | 0, _, letters => (readFraction? letters).map fun (micros, more) => ([], micros, more)
  | fields + 1, known, letters => do
    let (value, rest) <- takeDigits 2 letters
    let (values, micros, more) <-
      match rest with
      | [] => some ([], 0, false)
      | mark :: tail =>
        let separated := known.getD (mark == ':')
        if tail.isEmpty && mark.toNat < 128 then some ([], 0, goesOn rest)
        else if separated && mark == ':' then readFields? fields (some separated) tail
        else if mark == '.' || mark == ',' then
          (readFraction? tail).map fun (micros, more) => ([], micros, more)
        else if !separated then readFields? fields (some separated) rest
        else none
    some (value :: values, micros, more)

structure Clock where
  hours : Nat
  minutes : Nat
  seconds : Nat
  micros : Nat
  leftover : Bool
deriving DecidableEq, Repr

def readClock? (letters : List Char) : Option Clock :=
  (readFields? 3 none letters).map fun (values, micros, leftover) =>
    { hours := values.getD 0 0
      minutes := values.getD 1 0
      seconds := values.getD 2 0
      micros
      leftover }

def Clock.total (clock : Clock) : Int :=
  ((clock.hours * 3600 + clock.minutes * 60 + clock.seconds : Nat) : Int) * second + clock.micros

def startsOffset (letter : Char) : Bool := letter == '+' || letter == '-' || letter == 'Z'

/-- An offset of less than a day either way. One of less than a second is no offset. -/
def readOffset? (sign : Char) (letters : List Char) : Option Int := do
  let clock <- readClock? letters
  if clock.leftover then none
  else
    let total := clock.total
    if total < second then some 0
    else if day <= total then none
    else some (if sign == '-' then -total else total)

def readTime? (letters : List Char) : Option (Int × Option Int) := do
  let zone := letters.dropWhile fun letter => !startsOffset letter
  let clock <- readClock? (letters.takeWhile fun letter => !startsOffset letter)
  let offset : Option Int <-
    match zone with
    | [] => if clock.leftover then none else some none
    | 'Z' :: rest => if goesOn rest then none else some (some 0)
    | sign :: rest => (readOffset? sign rest).map some
  if clock.hours < 24 && clock.minutes < 60 && clock.seconds < 60 then some (clock.total, offset)
  else none

def readIso? (letters : List Char) : Option Moment := do
  if letters.length < 7 then none
  else
    let length <- dateLength letters
    let date <- readDate? (letters.take length)
    let (time, offset) <-
      match letters.drop length with
      | [] => some (0, none)
      | _ :: rest => readTime? rest
    if date.isValid then some { wall := date.dayNumber * day + time, offset } else none

end SensorAlerting.Time
