import SensorAlerting.Check.Fault
import SensorAlerting.Text.Split
import SensorAlerting.Value.Text

set_option autoImplicit false

/-!
Checking of data against the fields of a type. All faults are reported: in the order of the fields,
faults inside a field in its place, and unknown fields last. Values are read leniently: a number
may be given as text, a flag as a number or a word, a text by its bytes, and any collection of
items in place of a list.
-/

namespace SensorAlerting.Check

open SensorAlerting.Number SensorAlerting.Text SensorAlerting.Checked

def textOfBytes? (bytes : List UInt8) : Option String := String.fromUTF8? ⟨bytes.toArray⟩

def text : Value -> Checked String
  | .text content => .good content
  | .octets bytes =>
    match textOfBytes? bytes with
    | some content => .good content
    | none => fail .undecodableText
  | _ => fail .notText

def decoded : Value -> Value
  | .octets bytes =>
    match textOfBytes? bytes with
    | some content => .text content
    | none => .octets bytes
  | value => value

def someText (value : Value) : Checked String :=
  (text value).ensure (fun content => !content.isEmpty) .emptyText

def flagOfWord? (word : String) : Option Bool :=
  let word := String.ofList (word.toList.map lowerAscii)
  if ["1", "t", "true", "y", "yes", "on"].contains word then some true
  else if ["0", "f", "false", "n", "no", "off"].contains word then some false
  else none

/-- Whether a double of that whole number is taken for a whole number. -/
def fitsWord (number : Int) : Bool := -9223372036854775808 < number && number < 9223372036854775808

def flagOfInt (number : Int) : Checked Bool :=
  if number == 1 then .good true
  else if number == 0 then .good false
  else fail .unreadableFlag

def flag (value : Value) : Checked Bool :=
  match decoded value with
  | .bool flag => .good flag
  | .int number => if Time.fitsLong number then flagOfInt number else fail .notFlag
  | .float number =>
    match truncate? number with
    | some whole =>
      if isWhole number && fitsWord whole then flagOfInt whole else fail .notFlag
    | none => fail .notFlag
  | .text word =>
    match flagOfWord? word with
    | some flag => .good flag
    | none => fail .unreadableFlag
  | .octets _ => fail .unreadableFlag
  | _ => fail .notFlag

/-- Letters without the underscores that stand alone among them; any other underscore spoils
them. -/
def withoutUnderscores? (letters : List Char) : Option (List Char) :=
  if (splitRuns '_' letters).any List.isEmpty then none
  else some (letters.filter fun letter => letter != '_')

/-- A whole number without zeros in front; the last zero stays, and one before a point. -/
def dropZeros : List Char -> List Char
  | '0' :: '_' :: rest => if rest.head?.any isAsciiDigit then dropZeros rest else '0' :: '_' :: rest
  | '0' :: next :: rest =>
    if isAsciiDigit next then dropZeros (next :: rest) else '0' :: next :: rest
  | letters => letters

def dropFraction (letters : List Char) : List Char :=
  let fraction := letters.dropWhile fun letter => letter != '.'
  match fraction with
  | '.' :: '0' :: zeros =>
    if zeros.all fun letter => letter == '0' then letters.takeWhile fun letter => letter != '.'
    else letters
  | _ => letters

/-- The digits of a whole number in text with a minus sign, if it has one: single underscores may
stand between digits, and a fraction of zeros behind them. -/
def integerDigits? (content : String) : Option (List Char) :=
  let letters := trimBy isSpace content.toList
  let unsigned := match letters with
    | '+' :: '-' :: _ => []
    | '+' :: rest => rest
    | _ => letters
  match unsigned with
  | [] => none
  | '-' :: '_' :: _ => none
  | first :: _ =>
    if isAsciiDigit first || first == '-' then
      withoutUnderscores? (dropFraction (dropZeros unsigned))
    else none

def integerOfText (content : String) : Checked Int :=
  match integerDigits? content with
  | none => fail .unreadableInteger
  | some digits =>
    if digitLimit < digits.length then fail .oversizedInteger
    else match readAsciiInt? digits with
    | some number => .good number
    | none => fail .unreadableInteger

def integer (value : Value) : Checked Int :=
  match decoded value with
  | .bool flag => .good (if flag then 1 else 0)
  | .int number => .good number
  | .float number =>
    match truncate? number with
    | some whole =>
      if !isWhole number then fail .fractionalInteger
      else if fitsWord whole then .good whole
      else fail .oversizedInteger
    | none => fail .notFinite
  | .undefined _ => fail .notFinite
  | .text content => integerOfText content
  | .octets _ => fail .unreadableInteger
  | _ => fail .notInteger

def numberOfText? (content : String) : Option Float :=
  (readAsciiFloat? (trimBy isSpace content.toList)).orElse fun _ =>
    (withoutUnderscores? content.toList).bind readAsciiFloat?

def number (value : Value) : Checked Float :=
  match decoded value with
  | .bool flag => .good (if flag then 1 else 0)
  | .int number =>
    match ofInt? number with
    | some number => .good number
    | none => fail .notNumber
  | .float number => .good number
  | .undefined _ => .good undefinedFloat
  | .text content =>
    match numberOfText? content with
    | some number => .good number
    | none => fail .unreadableNumber
  | .octets _ => fail .unreadableNumber
  | _ => fail .notNumber

def above (bound : Int) (value : Value) : Checked Float :=
  (number value).ensure (fun x => decide ((ofInt? bound).getD 0 < x)) (.notAbove bound)

def numberFrom (bound : Int) (value : Value) : Checked Float :=
  (number value).ensure (fun x => decide ((ofInt? bound).getD 0 <= x)) (.belowLeast bound)

def integerFrom (bound : Int) (value : Value) : Checked Int :=
  (integer value).ensure (fun n => decide (bound <= n)) (.belowLeast bound)

def integerBetween (least most : Int) (value : Value) : Checked Int :=
  (integerFrom least value).ensure (fun n => decide (n <= most)) (.aboveMost most)

def momentOfNumber (amount : Quantity) : Checked Time.Moment :=
  match Time.ofStampNumber amount with
  | .ok moment => .good moment
  | .error fault => fail (.impossibleMoment fault)

def momentOfText (outcome : Except Time.StampFault Time.Moment) : Checked Time.Moment :=
  match outcome with
  | .ok moment => .good moment
  | .error .yearZero => fail (.impossibleMoment .yearZero)
  | .error fault => fail (.unreadableMoment fault)

def moment : Value -> Checked Time.Moment
  | .moment moment => .good moment
  | .date date => .good { wall := date.dayNumber * Time.day, offset := none }
  | .int number =>
    if (ofInt? number).isSome then momentOfNumber (.whole number) else fail .notMoment
  | .float number => momentOfNumber (.real number)
  | .undefined _ => momentOfNumber (.real undefinedFloat)
  | .text content => momentOfText (Time.readStamp content)
  | .octets bytes =>
    momentOfText (Time.readStampBytes (bytes.map fun byte => Char.ofNat byte.toNat))
  | _ => fail .notMoment

def optional {Item : Type} (check : Value -> Checked Item) : Value -> Checked (Option Item)
  | .null => .good none
  | value => some <$> check value

def each {Item : Type} (check : Value -> Checked Item) : Nat -> List Value -> Checked (List Item)
  | _, [] => .good []
  | index, value :: rest =>
    List.cons <$> (check value).inside (toString index) <*> each check (index + 1) rest

/-- The items of a list, or of what may stand in its place. -/
def items? : Value -> Option (List Value)
  | .list items => some items
  | .pair first second => some [first, second]
  | .unordered members => some members
  | _ => none

def listOf {Item : Type} (check : Value -> Checked Item) (value : Value) : Checked (List Item) :=
  match items? value with
  | some items => each check 0 items
  | none => fail .notList

def sequenceOf {Item : Type} (check : Value -> Checked Item) (value : Value) :
    Checked (List Item) :=
  match items? value with
  | some items => each check 0 items
  | none => fail .notSequence

def mapping : Value -> Checked (Entries String Value)
  | .mapping fields => .good fields
  | _ => fail .notMapping

def oneOf {Item : Type} (choices : List (String × Item)) (value : Value) : Checked Item :=
  let name := (decoded value).text?
  match choices.find? fun choice => name == some choice.1 with
  | some choice => .good choice.2
  | none => fail (.notOneOf (choices.map Prod.fst))

def required {Item : Type} (fields : Entries String Value) (name : String)
    (check : Value -> Checked Item) : Checked Item :=
  (match Entries.get? fields name with
    | some value => check value
    | none => fail .missing).inside name

def defaulted {Item : Type} (fields : Entries String Value) (name : String) (fallback : Item)
    (check : Value -> Checked Item) : Checked Item :=
  match Entries.get? fields name with
  | some value => (check value).inside name
  | none => .good fallback

def keyName : Value -> String
  | .bool flag => if flag then "1" else "0"
  | key => key.literalText

def keyFault? (known : List String) (key : Value) : Option Fault :=
  match decoded key, key with
  | .text name, .text _ =>
    if known.contains name then none else some { path := [name], problem := .unknownField }
  | .text _, _ => some { path := [keyName key], problem := .unknownField }
  | _, _ => some { path := [keyName key], problem := .keyNotText }

def unknown (fields : Entries String Value) (known : List String) : List Fault :=
  (Entries.keys fields).filterMap fun name => keyFault? known (.text name)

def sectionOf {Item : Type} (name : String) (known : List String)
    (check : Entries String Value -> Checked Item) (value : Value) : Checked Item :=
  match value.entries? with
  | some entries =>
    (check (Value.named entries)).also (entries.filterMap fun entry => keyFault? known entry.1)
  | none => fail (.notSection name)

end SensorAlerting.Check
