import SensorAlerting.Value.Text

set_option autoImplicit false

/-!
Values written as JSON in ASCII: a blank follows each comma and colon, and characters beyond ASCII
are written as escaped units of sixteen bits. Values that the format does not know are written as
texts or lists, and keys as texts.
-/

namespace SensorAlerting.Json

open SensorAlerting.Number

def unitChars (unit : Nat) : List Char := '\\' :: 'u' :: Text.hexDigits 4 unit

def escapeChar (letter : Char) : List Char :=
  if letter == '"' then ['\\', '"']
  else if letter == '\\' then ['\\', '\\']
  else if letter == '\n' then ['\\', 'n']
  else if letter == '\r' then ['\\', 'r']
  else if letter == '\t' then ['\\', 't']
  else if letter == '\x08' then ['\\', 'b']
  else if letter == '\x0c' then ['\\', 'f']
  else if ' ' <= letter && letter <= '~' then [letter]
  else if letter.toNat < 0x10000 then unitChars letter.toNat
  else
    let rest := letter.toNat - 0x10000
    unitChars (0xD800 + rest / 0x400) ++ unitChars (0xDC00 + rest % 0x400)

def stringChars (content : String) : List Char :=
  '"' :: content.toList.flatMap escapeChar ++ ['"']

def numberChars (x : Float) : List Char :=
  match parts x with
  | .undefined => "NaN".toList
  | .infinite negative => signed negative "Infinity".toList
  | .finite _ _ _ => floatChars x

mutual

def writeChars : Value -> List Char
  | .null => "null".toList
  | .bool flag => (if flag then "true" else "false").toList
  | .int number => intChars number
  | .float number => numberChars number
  | .undefined _ => numberChars undefinedFloat
  | .text content => stringChars content
  | .list items => '[' :: writeItems items
  | .unordered members => '[' :: writeItems members
  | .pair first second => '[' :: writeChars first ++ ',' :: ' ' :: writeChars second ++ [']']
  | .mapping fields => '\x7b' :: writeFields fields
  | .table entries => '\x7b' :: writeEntries entries
  | value => stringChars value.plainText

def writeItems : List Value -> List Char
  | [] => [']']
  | [item] => writeChars item ++ [']']
  | item :: rest => writeChars item ++ ',' :: ' ' :: writeItems rest

def writeFields : List (String × Value) -> List Char
  | [] => ['\x7d']
  | [(name, item)] => stringChars name ++ ':' :: ' ' :: writeChars item ++ ['\x7d']
  | (name, item) :: rest =>
    stringChars name ++ ':' :: ' ' :: writeChars item ++ ',' :: ' ' :: writeFields rest

def writeEntries : List (Value × Value) -> List Char
  | [] => ['\x7d']
  | [(key, item)] => stringChars key.plainText ++ ':' :: ' ' :: writeChars item ++ ['\x7d']
  | (key, item) :: rest =>
    stringChars key.plainText ++ ':' :: ' ' :: writeChars item ++ ',' :: ' ' :: writeEntries rest

end

def write (value : Value) : String := String.ofList (writeChars value)

end SensorAlerting.Json
