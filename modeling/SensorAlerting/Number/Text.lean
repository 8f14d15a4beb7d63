import SensorAlerting.Number.Shortest

set_option autoImplicit false

namespace SensorAlerting.Number

def zeros (count : Nat) : List Char := List.replicate count '0'

def exponentText (exponent : Int) : List Char :=
  let digits := Nat.toDigits 10 exponent.natAbs
  let padded := if digits.length < 2 then '0' :: digits else digits
  'e' :: (if exponent < 0 then '-' else '+') :: padded

/-- Positional notation with the decimal point after `point` digits; a whole number ends in
`tail`. -/
def positional (written : Digits) (tail : List Char) : List Char :=
  let count : Int := written.digits.length
  if written.point <= 0 then
    '0' :: '.' :: (zeros (-written.point).toNat ++ written.digits)
  else if count <= written.point then
    written.digits ++ zeros (written.point - count).toNat ++ tail
  else
    written.digits.take written.point.toNat ++ '.' :: written.digits.drop written.point.toNat

def scientific (written : Digits) : List Char :=
  let lead := match written.digits with
    | [] => []
    | [digit] => [digit]
    | digit :: rest => digit :: '.' :: rest
  lead ++ exponentText (written.point - 1)

def signed (negative : Bool) (written : List Char) : List Char :=
  if negative then '-' :: written else written

/-- The fewest digits that read back. Positional notation is used from `1e-04` below `1e16`, and
a whole number keeps one zero after its point. -/
def floatChars (x : Float) : List Char :=
  match parts x with
  | .undefined => "nan".toList
  | .infinite negative => signed negative "inf".toList
  | .finite negative 0 _ => signed negative "0.0".toList
  | .finite negative mantissa exponent =>
    let written := shortest mantissa exponent
    signed negative <|
      if -4 < written.point && written.point <= 16 then positional written ['.', '0']
      else scientific written

def floatText (x : Float) : String := String.ofList (floatChars x)

def natChars (n : Nat) : List Char := Nat.toDigits 10 n

def intChars (n : Int) : List Char := signed (decide (n < 0)) (natChars n.natAbs)

def intText (n : Int) : String := String.ofList (intChars n)

def hundredthsChars (count : Nat) : List Char :=
  let digits := natChars count
  let padded := zeros (3 - digits.length) ++ digits
  padded.take (padded.length - 2) ++ '.' :: padded.drop (padded.length - 2)

/-- The exact value of a double rounded to two places, a half to the even neighbour. -/
def fixedTwoText (x : Float) : String :=
  String.ofList <| match parts x with
  | .undefined => "nan".toList
  | .infinite negative => signed negative "inf".toList
  | .finite negative mantissa exponent =>
    let size := magnitude mantissa exponent
    signed negative (hundredthsChars (roundQuotient (100 * size.1) size.2))

/-- Six significant digits without trailing zeros; exponents below -4 and from 6 on are
written out. -/
def generalText (x : Float) : String :=
  String.ofList <| match parts x with
  | .undefined => "nan".toList
  | .infinite negative => signed negative "inf".toList
  | .finite negative 0 _ => signed negative ['0']
  | .finite negative mantissa exponent =>
    let size := magnitude mantissa exponent
    let power := decimalPoint size.1 size.2 - 6
    let count :=
      roundQuotient (size.1 * Nat.pow 10 (-power).toNat) (size.2 * Nat.pow 10 power.toNat)
    let written := Digits.ofScaled count power
    signed negative <|
      if -4 < written.point && written.point <= 6 then positional written []
      else scientific written

def roundTwo (x : Float) : Float :=
  match parts x with
  | .finite negative mantissa exponent =>
    let size := magnitude mantissa exponent
    ofQuotient negative (roundQuotient (100 * size.1) size.2) 100
  | _ => x

def compactText (x : Float) : String :=
  match truncate? x with
  | some whole => if isWhole x then intText whole else floatText x
  | none => floatText x

end SensorAlerting.Number
