import SensorAlerting.Text.Word

set_option autoImplicit false

/-!
Bytes written in base 64, four digits for three bytes. Other characters among the digits do not
count. The digits end at the padding that fills up a group of four, and a last group of two or
three digits must have that padding.
-/

namespace SensorAlerting.Text.Base64

def digit? (letter : Char) : Option Nat :=
  if 'A' <= letter && letter <= 'Z' then some (letter.toNat - 65)
  else if 'a' <= letter && letter <= 'z' then some (letter.toNat - 71)
  else if isAsciiDigit letter then some (letter.toNat + 4)
  else if letter == '+' then some 62
  else if letter == '/' then some 63
  else none

/-- The byte that a digit completes, with what the digit before it left over. -/
def byteOf (place left digit : Nat) : List UInt8 :=
  match place with
  | 1 => [(left * 4 + digit / 16).toUInt8]
  | 2 => [(left * 16 + digit / 4).toUInt8]
  | 3 => [(left * 64 + digit).toUInt8]
  | _ => []

def leftOver (place digit : Nat) : Nat :=
  match place with
  | 0 => digit
  | 1 => digit % 16
  | 2 => digit % 4
  | _ => 0

def decodeFrom? (place left padding : Nat) : List Char -> Option (List UInt8)
  | [] => if place == 0 then some [] else none
  | letter :: rest =>
    if letter == '=' then
      if 2 <= place && 4 <= place + padding + 1 then some []
      else decodeFrom? place left (if 2 <= place then padding + 1 else padding) rest
    else match digit? letter with
    | none => decodeFrom? place left padding rest
    | some digit =>
      (decodeFrom? ((place + 1) % 4) (leftOver place digit) 0 rest).map fun bytes =>
        byteOf place left digit ++ bytes

def decode? (letters : List Char) : Option (List UInt8) := decodeFrom? 0 0 0 letters

end SensorAlerting.Text.Base64
