import SensorAlerting.Text.Base64
import SensorAlerting.Yaml.Plain

set_option autoImplicit false

/-!
Scalars of which a tag says what they stand for. They are read more freely than plain ones: a
number may have blanks around it, a second sign, and digits of any script.
-/

namespace SensorAlerting.Yaml

open SensorAlerting.Number SensorAlerting.Text SensorAlerting.Time

def signOf (letters : List Char) : Except YamlFault (Bool × List Char) :=
  if letters.isEmpty then .error .emptyNumber else .ok (takeSign letters)

def baseLetter : Nat -> Char
  | 2 => 'b'
  | 8 => 'o'
  | _ => 'x'

def digitBelow? (base : Nat) (letter : Char) : Option Nat :=
  (Json.hexValue? letter).bind fun value => if value < base then some value else none

def readBased? (base : Nat) (letters : List Char) : Option Int :=
  let (negative, rest) := takeSign (trimBy Text.isSpace (letters.map plainDigit))
  let digits := match rest with
    | '0' :: mark :: digits => if lowerAscii mark == baseLetter base then digits else rest
    | _ => rest
  if digits.isEmpty then none
  else (digits.foldlM (fun value letter => (digitBelow? base letter).map fun digit =>
    base * value + digit) 0).map fun size => if negative then -(size : Int) else size

def orNoSuchValue {Item : Type} (found : Option Item) : Except YamlFault Item :=
  match found with
  | some item => .ok item
  | none => .error .noSuchValue

/-- Whole numbers between colons, each sixty times the one behind it. -/
def readSixties? (letters : List Char) : Option Int :=
  (splitColons letters).foldlM (fun value run =>
    (readInt? (String.ofList run)).map fun digit => 60 * value + digit) 0

def unsignedWhole (letters : List Char) : Except YamlFault Int :=
  match letters with
  | [] => .error .emptyNumber
  | ['0'] => .ok 0
  | '0' :: 'b' :: rest => orNoSuchValue (readBased? 2 rest)
  | '0' :: 'x' :: rest => orNoSuchValue (readBased? 16 rest)
  | '0' :: _ => orNoSuchValue (readBased? 8 letters)
  | _ =>
    if letters.contains ':' then orNoSuchValue (readSixties? letters)
    else orNoSuchValue (readInt? (String.ofList letters))

def taggedWhole (content : String) : Except YamlFault Value := do
  let (negative, rest) <- signOf (dropBars content.toList)
  let size <- unsignedWhole rest
  .ok (.int (if negative then -size else size))

def readSixtiesDouble? (letters : List Char) : Option Float :=
  ((splitColons letters).mapM fun run => readFloat? (String.ofList run)).map fun digits =>
    sumSixties 1 0 digits.reverse

def unsignedDouble (letters : List Char) : Except YamlFault Float :=
  let word := String.ofList letters
  if word == ".inf" then .ok positiveInfinity
  else if word == ".nan" then .ok undefinedFloat
  else if letters.contains ':' then orNoSuchValue (readSixtiesDouble? letters)
  else orNoSuchValue (readFloat? word)

def taggedDouble (content : String) : Except YamlFault Value := do
  let (negative, rest) <- signOf ((dropBars content.toList).map lowerAscii)
  let size <- unsignedDouble rest
  .ok (.float (if negative then -size else size))

def taggedFlag (content : String) : Except YamlFault Value :=
  match flagOf? (String.ofList (content.toList.map lowerAscii)) with
  | some flag => .ok (.bool flag)
  | none => .error .notFlag

def dropLastBreak (letters : List Char) : List Char :=
  if letters.getLast? == some '\n' then letters.dropLast else letters

/-- A date, here with months and days of one digit too, or a moment. -/
def taggedMoment (content : String) : Except YamlFault Value :=
  let letters := dropLastBreak content.toList
  match dateParts? 1 letters with
  | some (date, []) => if date.isValid then .ok (.date date) else .error .noSuchValue
  | _ => (momentOf? letters).getD (.error .notMoment)

def endlessWords : List String := infinityWords ++ undefinedWords

/-- A text that is to be read as its form suggests. A break at its end does not change what it looks
like, but flags and doubles without digits cannot be read with it. -/
def suggestedValue (content : String) : Except YamlFault Value :=
  let stem := dropLastBreak content.toList
  if stem.isEmpty || stem == content.toList then plainValue content
  else if keyWords.contains (String.ofList stem) then .error .malformed
  else if endlessWords.contains (String.ofList (takeSign stem).2) then .error .noSuchValue
  else match spelled? (String.ofList stem) with
  | some (.ok (.bool _)) => .error .notFlag
  | some outcome => outcome
  | none => .ok (.text content)

def taggedOctets (content : String) : Except YamlFault Value :=
  let letters := content.toList
  match if letters.all fun letter => letter.toNat < 128 then Base64.decode? letters else none with
  | some bytes => .ok (.octets bytes)
  | none => .error .malformed

end SensorAlerting.Yaml
