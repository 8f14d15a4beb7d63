import SensorAlerting.Number.Binary

set_option autoImplicit false

/-!
The shortest decimal that reads back as a given double: the fewest digits, and of those the
nearest, a tie to the even digit. On the grid of each digit count the two neighbours of the double
are tried.
-/

namespace SensorAlerting.Number

/-- A positive decimal `0.d1 d2 … dn * 10 ^ point`, without trailing zeros. -/
structure Digits where
  digits : List Char
  point : Int

def Digits.ofScaled (count : Nat) (power : Int) : Digits :=
  let written := Nat.toDigits 10 count
  { digits := (written.reverse.dropWhile (fun digit => digit == '0')).reverse
    point := (written.length : Int) + power }

/-- The exponent `k` with `10 ^ (k - 1) <= numerator / denominator < 10 ^ k`. -/
def decimalPoint (numerator denominator : Nat) : Int :=
  let guess : Int :=
    ((Nat.toDigits 10 numerator).length : Int) - ((Nat.toDigits 10 denominator).length : Int)
  if numerator * Nat.pow 10 (-guess).toNat < denominator * Nat.pow 10 guess.toNat then guess
  else guess + 1

/-- The point of one decimal grid that lies nearest to a double and still reads back as it. All
bounds are in quarters of the last place of the mantissa. -/
def gridPoint? (mantissa : Nat) (exponent power : Int) (binade : Bool) : Option Nat :=
  let quarter := exponent - 2
  let unit := Nat.pow 2 quarter.toNat * Nat.pow 10 (-power).toNat
  let step := Nat.pow 2 (-quarter).toNat * Nat.pow 10 power.toNat
  let centre := 4 * mantissa * unit
  let low := (4 * mantissa - (if binade then 1 else 2)) * unit
  let high := (4 * mantissa + 2) * unit
  let even := mantissa % 2 == 0
  let fits := fun (count : Nat) =>
    if even then decide (low <= count * step) && decide (count * step <= high)
    else decide (low < count * step) && decide (count * step < high)
  let below := centre / step
  let above := below + 1
  if fits below && fits above then some (roundQuotient centre step)
  else if fits below then some below
  else if fits above then some above
  else none

def shortest (mantissa : Nat) (exponent : Int) : Digits :=
  let size := magnitude mantissa exponent
  let point := decimalPoint size.1 size.2
  let binade := mantissa == Nat.pow 2 52 && decide (-1074 < exponent)
  let found := (List.range 17).findSome? fun (shorter : Nat) =>
    let power := point - ((shorter : Int) + 1)
    (gridPoint? mantissa exponent power binade).map fun count => Digits.ofScaled count power
  found.getD (Digits.ofScaled (roundQuotient size.1 size.2) 0)

end SensorAlerting.Number
