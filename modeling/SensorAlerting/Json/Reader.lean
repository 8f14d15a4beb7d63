import SensorAlerting.Value
import SensorAlerting.Number.Reading

set_option autoImplicit false

/-!
Values read from JSON. Numbers without fraction and exponent are whole, the names of the undefined
number and of the infinities are read as numbers, and of members with one name the last counts. A
whole number with too many digits is a fault of its own, and so is too deep a nesting.
-/

namespace SensorAlerting.Json

open SensorAlerting.Number SensorAlerting.Text

def isSpace (letter : Char) : Bool :=
  letter == ' ' || letter == '\t' || letter == '\n' || letter == '\r'

def skipSpace (letters : List Char) : List Char := letters.dropWhile isSpace

def hexValue? (letter : Char) : Option Nat :=
  if isAsciiDigit letter then some (letter.toNat - 48)
  else if 'a' <= letter && letter <= 'f' then some (letter.toNat - 87)
  else if 'A' <= letter && letter <= 'F' then some (letter.toNat - 55)
  else none

def unit? (a b c d : Char) : Option Nat := do
  let a <- hexValue? a
  let b <- hexValue? b
  let c <- hexValue? c
  let d <- hexValue? d
  some (a * 4096 + b * 256 + c * 16 + d)

def shortEscape? (letter : Char) : Option Nat :=
  match letter with
  | '"' => some 34
  | '\\' => some 92
  | '/' => some 47
  | 'b' => some 8
  | 'f' => some 12
  | 'n' => some 10
  | 'r' => some 13
  | 't' => some 9
  | _ => none

def readUnits? : List Char -> Option (List Nat × List Char)
  | [] => none
  | '"' :: rest => some ([], rest)
  | '\\' :: 'u' :: a :: b :: c :: d :: rest => do
    let unit <- unit? a b c d
    let (units, after) <- readUnits? rest
    some (unit :: units, after)
  | '\\' :: letter :: rest => do
    let unit <- shortEscape? letter
    let (units, after) <- readUnits? rest
    some (unit :: units, after)
  | letter :: rest =>
    if letter == '\\' || letter.toNat < 0x20 then none
    else (readUnits? rest).map fun (units, after) => (letter.toNat :: units, after)

/-- Characters of a string; two units that form a pair become one character. -/
def joinUnits : List Nat -> List Char
  | [] => []
  | [unit] => [Char.ofNat (if 0xD800 <= unit && unit <= 0xDFFF then 0xFFFD else unit)]
  | high :: low :: rest =>
    if 0xD800 <= high && high <= 0xDBFF && 0xDC00 <= low && low <= 0xDFFF then
      Char.ofNat (0x10000 + (high - 0xD800) * 0x400 + (low - 0xDC00)) :: joinUnits rest
    else
      Char.ofNat (if 0xD800 <= high && high <= 0xDFFF then 0xFFFD else high) ::
        joinUnits (low :: rest)

def readString? (letters : List Char) : Option (String × List Char) :=
  (readUnits? letters).map fun (units, rest) => (String.ofList (joinUnits units), rest)

def takeFraction : List Char -> List Char × List Char
  | '.' :: rest =>
    let digits := rest.takeWhile isAsciiDigit
    if digits.isEmpty then ([], '.' :: rest) else (digits, rest.dropWhile isAsciiDigit)
  | letters => ([], letters)

def takeExponent (letters : List Char) : Option Int × List Char :=
  match letters with
  | mark :: rest =>
    let (negative, digitsOn) := takeSign rest
    let digits := digitsOn.takeWhile isAsciiDigit
    if (mark == 'e' || mark == 'E') && !digits.isEmpty then
      let size : Int := digitsValue digits
      (some (if negative then -size else size), digitsOn.dropWhile isAsciiDigit)
    else (none, letters)
  | [] => (none, [])

inductive ReadFault where
  | malformed
  | tooManyDigits
  | tooDeep
deriving DecidableEq, Repr

/-- A number without its minus sign. A whole part that starts with a zero ends there. -/
def readNumber (negative : Bool) (letters : List Char) : Except ReadFault (Value × List Char) :=
  let whole := match letters with
    | '0' :: _ => ['0']
    | _ => letters.takeWhile isAsciiDigit
  if whole.isEmpty then .error .malformed
  else
    let (fraction, rest) := takeFraction (letters.drop whole.length)
    let (exponent, rest) := takeExponent rest
    if fraction.isEmpty && exponent.isNone then
      let size : Int := digitsValue whole
      if digitLimit < whole.length then .error .tooManyDigits
      else .ok (.int (if negative then -size else size), rest)
    else
      let power := exponent.getD 0 - fraction.length
      .ok (.float (ofDecimal negative (digitsValue (whole ++ fraction)) power), rest)

def readWord (word : List Char) (value : Value) (letters : List Char) :
    Except ReadFault (Value × List Char) :=
  if word.isPrefixOf letters then .ok (value, letters.drop word.length) else .error .malformed

def readString (letters : List Char) : Except ReadFault (String × List Char) :=
  match readString? letters with
  | some found => .ok found
  | none => .error .malformed

def readScalar (letters : List Char) : Except ReadFault (Value × List Char) :=
  match letters with
  | '"' :: rest => (readString rest).map fun (content, after) => (.text content, after)
  | 'n' :: _ => readWord "null".toList .null letters
  | 't' :: _ => readWord "true".toList (.bool true) letters
  | 'f' :: _ => readWord "false".toList (.bool false) letters
  | 'N' :: _ => readWord "NaN".toList (.float undefinedFloat) letters
  | 'I' :: _ => readWord "Infinity".toList (.float positiveInfinity) letters
  | '-' :: 'I' :: rest =>
    readWord "nfinity".toList (.float (-positiveInfinity)) rest
  | '-' :: rest => readNumber true rest
  | _ => readNumber false letters

mutual

/-- One value, with so many levels of lists and mappings at most. The fuel bounds the nesting and
the number of items; twice the length of the text is enough of it. -/
def readValue : Nat -> Nat -> List Char -> Except ReadFault (Value × List Char)
  | 0, _, _ => .error .malformed
  | _ + 1, 0, letters =>
    if letters.head?.any "[\x7b".toList.contains then .error .tooDeep else readScalar letters
  | fuel + 1, levels + 1, '[' :: rest =>
    match skipSpace rest with
    | ']' :: after => .ok (.list [], after)
    | letters =>
      (readItems fuel levels letters).map fun (items, after) => (.list items, after)
  | fuel + 1, levels + 1, '\x7b' :: rest =>
    match skipSpace rest with
    | '\x7d' :: after => .ok (.mapping [], after)
    | letters =>
      (readMembers fuel levels letters).map fun (members, after) =>
        (.mapping (Entries.ofPairs members), after)
  | _ + 1, _ + 1, letters => readScalar letters

def readItems : Nat -> Nat -> List Char -> Except ReadFault (List Value × List Char)
  | 0, _, _ => .error .malformed
  | fuel + 1, levels, letters => do
    let (item, rest) <- readValue fuel levels letters
    match skipSpace rest with
    | ']' :: after => .ok ([item], after)
    | ',' :: after =>
      let (items, after) <- readItems fuel levels (skipSpace after)
      .ok (item :: items, after)
    | _ => .error .malformed

def readMembers : Nat -> Nat -> List Char -> Except ReadFault (List (String × Value) × List Char)
  | 0, _, _ => .error .malformed
  | fuel + 1, levels, '"' :: rest => do
    let (name, rest) <- readString rest
    match skipSpace rest with
    | ':' :: after =>
      let (item, rest) <- readValue fuel levels (skipSpace after)
      match skipSpace rest with
      | '\x7d' :: after => .ok ([(name, item)], after)
      | ',' :: after =>
        let (members, after) <- readMembers fuel levels (skipSpace after)
        .ok ((name, item) :: members, after)
      | _ => .error .malformed
    | _ => .error .malformed
  | _ + 1, _, _ => .error .malformed

end

def deepest : Nat := 990

def read (content : String) : Except ReadFault Value :=
  let letters := skipSpace content.toList
  match readValue (2 * letters.length + 1) deepest letters with
  | .ok (value, rest) => if (skipSpace rest).isEmpty then .ok value else .error .malformed
  | .error fault => .error fault

def read? (content : String) : Option Value := (read content).toOption

end SensorAlerting.Json
