set_option autoImplicit false

/-!
Doubles as exact binary fractions. `parts` takes a double apart without loss, and `ofQuotient`
goes back: it gives the double nearest to a quotient of naturals, a tie to the even neighbour.
-/

namespace SensorAlerting.Number

/-- What a double stands for: a finite one is `mantissa * 2 ^ exponent` up to its sign. -/
inductive Parts where
  | undefined
  | infinite (negative : Bool)
  | finite (negative : Bool) (mantissa : Nat) (exponent : Int)
deriving DecidableEq, Repr

def parts (x : Float) : Parts :=
  let bits := x.toBits.toNat
  let negative := bits / Nat.pow 2 63 == 1
  let field : Nat := bits / Nat.pow 2 52 % Nat.pow 2 11
  let fraction : Nat := bits % Nat.pow 2 52
  if field == 2047 then
    if fraction == 0 then .infinite negative else .undefined
  else if field == 0 then .finite negative fraction (-1074)
  else .finite negative (fraction + Nat.pow 2 52) ((field : Int) - 1075)

def positiveInfinity : Float := Float.ofBits 0x7FF0000000000000

def undefinedFloat : Float := Float.ofBits 0x7FF8000000000000

def isFinite (x : Float) : Bool :=
  match parts x with
  | .finite _ _ _ => true
  | _ => false

def isUndefined (x : Float) : Bool :=
  match parts x with
  | .undefined => true
  | _ => false

def isInfinite (x : Float) : Bool :=
  match parts x with
  | .infinite _ => true
  | _ => false

def roundQuotient (numerator denominator : Nat) : Nat :=
  let floor := numerator / denominator
  let rest := numerator % denominator
  if 2 * rest < denominator then floor
  else if denominator < 2 * rest then floor + 1
  else floor + floor % 2

/-- `numerator / denominator / 2 ^ exponent` as a quotient of naturals. -/
def shifted (numerator denominator : Nat) (exponent : Int) : Nat × Nat :=
  (numerator * Nat.pow 2 (-exponent).toNat, denominator * Nat.pow 2 exponent.toNat)

def infinityBits : Nat := 2047 * Nat.pow 2 52

/-- The bits of the nonnegative double nearest to a quotient. The exponent is the one that gives
the rounded mantissa 53 bits, unless the quotient is too small for that; a mantissa that rounds
up to the next power of two carries into the exponent field by itself. -/
def magnitudeBits (numerator denominator : Nat) : Nat :=
  if numerator == 0 then 0
  else
    let guess : Int := max ((numerator.log2 : Int) - (denominator.log2 : Int) - 52) (-1074)
    let trial := shifted numerator denominator guess
    let exponent :=
      if trial.1 / trial.2 < Nat.pow 2 52 then max (guess - 1) (-1074) else guess
    let scaled := shifted numerator denominator exponent
    min ((exponent + 1074).toNat * Nat.pow 2 52 + roundQuotient scaled.1 scaled.2) infinityBits

def ofQuotient (negative : Bool) (numerator denominator : Nat) : Float :=
  let bits := magnitudeBits numerator denominator
  Float.ofBits (UInt64.ofNat (if negative then bits + Nat.pow 2 63 else bits))

def ofInt? (n : Int) : Option Float :=
  let x := ofQuotient (decide (n < 0)) n.natAbs 1
  if isInfinite x then none else some x

def ofIntOver? (n : Int) (denominator : Nat) : Option Float :=
  let x := ofQuotient (decide (n < 0)) n.natAbs denominator
  if isInfinite x then none else some x

def magnitude (mantissa : Nat) (exponent : Int) : Nat × Nat :=
  (mantissa * Nat.pow 2 exponent.toNat, Nat.pow 2 (-exponent).toNat)

def truncate? (x : Float) : Option Int :=
  match parts x with
  | .finite negative mantissa exponent =>
    let size := magnitude mantissa exponent
    let whole : Int := ((size.1 / size.2 : Nat) : Int)
    some (if negative then -whole else whole)
  | _ => none

def isWhole (x : Float) : Bool :=
  match parts x with
  | .finite _ mantissa exponent =>
    let size := magnitude mantissa exponent
    size.1 % size.2 == 0
  | _ => false

/-- The double nearest to `digits * 10 ^ power`. Far outside the range of doubles the answer is
known from the number of digits alone. -/
def ofDecimal (negative : Bool) (digits : Nat) (power : Int) : Float :=
  let places : Int := ((Nat.toDigits 10 digits).length : Int) + power
  if digits == 0 then ofQuotient negative 0 1
  else if 400 < places then ofQuotient negative (Nat.pow 10 400) 1
  else if places < -400 then ofQuotient negative 0 1
  else ofQuotient negative (digits * Nat.pow 10 power.toNat) (Nat.pow 10 (-power).toNat)

end SensorAlerting.Number
