import SensorAlerting.Text.Printable

set_option autoImplicit false

/-!
Quoted text: a text in quotes on one line, from which it can be recovered. Single quotes are used
unless the text holds a single quote and no double quote. Backslashes, the quote in use and
unprintable characters are escaped.
-/

namespace SensorAlerting.Text

def hexDigits (width code : Nat) : List Char :=
  let digits := Nat.toDigits 16 code
  List.replicate (width - digits.length) '0' ++ digits

def escapeLetter (quote letter : Char) : List Char :=
  if letter == '\\' then ['\\', '\\']
  else if letter == quote then ['\\', quote]
  else if letter == '\n' then ['\\', 'n']
  else if letter == '\r' then ['\\', 'r']
  else if letter == '\t' then ['\\', 't']
  else if isPrintable letter then [letter]
  else if letter.toNat < 0x100 then '\\' :: 'x' :: hexDigits 2 letter.toNat
  else if letter.toNat < 0x10000 then '\\' :: 'u' :: hexDigits 4 letter.toNat
  else '\\' :: 'U' :: hexDigits 8 letter.toNat

def quoteFor (letters : List Char) : Char :=
  if letters.contains '\'' && !letters.contains '"' then '"' else '\''

def quotedChars (letters : List Char) : List Char :=
  let quote := quoteFor letters
  quote :: letters.flatMap (escapeLetter quote) ++ [quote]

def quoted (text : String) : String := String.ofList (quotedChars text.toList)

def escapeByte (quote : Char) (byte : UInt8) : List Char :=
  let letter := Char.ofNat byte.toNat
  if byte < 0x80 then escapeLetter quote letter else '\\' :: 'x' :: hexDigits 2 byte.toNat

def quotedBytes (bytes : List UInt8) : String :=
  let quote := quoteFor (bytes.map fun byte => Char.ofNat byte.toNat)
  String.ofList ('b' :: quote :: bytes.flatMap (escapeByte quote) ++ [quote])

end SensorAlerting.Text
