import SensorAlerting.Text.Ranges

set_option autoImplicit false

namespace SensorAlerting.Text

/-- White space of every script, the four information separators included. -/
def blankRanges : List (Nat × Nat) :=
  [(0x9, 0xD), (0x1C, 0x20), (0x85, 0x85), (0xA0, 0xA0), (0x1680, 0x1680), (0x2000, 0x200A),
    (0x2028, 0x2029), (0x202F, 0x202F), (0x205F, 0x205F), (0x3000, 0x3000)]

def isBlank (letter : Char) : Bool := covers blankRanges letter.toNat

def isSpace (letter : Char) : Bool :=
  isBlank letter && !(0x1C <= letter.toNat && letter.toNat <= 0x1F)

def trimBy (drop : Char -> Bool) (letters : List Char) : List Char :=
  ((letters.dropWhile drop).reverse.dropWhile drop).reverse

def trim (text : String) : String := String.ofList (trimBy isBlank text.toList)

end SensorAlerting.Text
