import SensorAlerting.Number.Binary
import SensorAlerting.Text.Blank
import SensorAlerting.Text.Digit

set_option autoImplicit false

/-!
Numbers in text. A decimal has digits with an optional point among them and an optional exponent.
Read leniently, a number may have blanks around it, digits of any script, and single underscores
between digits.
-/

namespace SensorAlerting.Number

open SensorAlerting.Text

def takeSign : List Char -> Bool × List Char
  | '+' :: rest => (false, rest)
  | '-' :: rest => (true, rest)
  | letters => (false, letters)

def lowerAscii (letter : Char) : Char :=
  if 'A' <= letter && letter <= 'Z' then Char.ofNat (letter.toNat + 32) else letter

def readExponent? : List Char -> Option Int
  | [] => some 0
  | mark :: rest =>
    let (negative, digits) := takeSign rest
    if lowerAscii mark == 'e' && !digits.isEmpty && digits.all isAsciiDigit then
      let size : Int := digitsValue digits
      some (if negative then -size else size)
    else none

def readDecimal? (letters : List Char) : Option (Nat × Int) :=
  let whole := letters.takeWhile isAsciiDigit
  let rest := letters.dropWhile isAsciiDigit
  let (fraction, rest) := match rest with
    | '.' :: rest => (rest.takeWhile isAsciiDigit, rest.dropWhile isAsciiDigit)
    | _ => ([], rest)
  if whole.isEmpty && fraction.isEmpty then none
  else (readExponent? rest).map fun exponent =>
    (digitsValue (whole ++ fraction), exponent - fraction.length)

def readAsciiFloat? (letters : List Char) : Option Float :=
  let (negative, rest) := takeSign letters
  let name := String.ofList (rest.map lowerAscii)
  if name == "inf" || name == "infinity" then
    some (if negative then -positiveInfinity else positiveInfinity)
  else if name == "nan" then some undefinedFloat
  else (readDecimal? rest).map fun (digits, power) => ofDecimal negative digits power

/-- Removes underscores that stand between two digits; any other underscore spoils the text. -/
def joinDigits? : Option Char -> List Char -> Option (List Char)
  | _, [] => some []
  | before, '_' :: rest =>
    if before.any isAsciiDigit && rest.head?.any isAsciiDigit then joinDigits? (some '_') rest
    else none
  | _, letter :: rest => (joinDigits? (some letter) rest).map (letter :: ·)

/-- The ASCII digit of the same value, for digits of any script. -/
def plainDigit (letter : Char) : Char :=
  match digitValue? letter with
  | some value => Char.ofNat (48 + value)
  | none => letter

def plainLetters (text : String) : List Char := trimBy isSpace (text.toList.map plainDigit)

def readFloat? (text : String) : Option Float :=
  (joinDigits? none (plainLetters text)).bind readAsciiFloat?

def readAsciiInt? (letters : List Char) : Option Int :=
  let (negative, digits) := takeSign letters
  if digits.isEmpty || !digits.all isAsciiDigit then none
  else
    let size : Int := digitsValue digits
    some (if negative then -size else size)

def digitLimit : Nat := 4300

def countDigits (letters : List Char) : Nat := letters.countP isAsciiDigit

def readInt? (text : String) : Option Int := do
  let letters <- joinDigits? none (plainLetters text)
  if digitLimit < countDigits letters then none else readAsciiInt? letters

end SensorAlerting.Number
