import SensorAlerting.Time.Moment
import SensorAlerting.Number.Quantity

set_option autoImplicit false

/-!
Spans of time in microseconds. An amount of some unit is rounded to the nearest microsecond, a half
to the even one, and must stay below a billion days.
-/

namespace SensorAlerting.Time

open SensorAlerting.Number

def shortestSpan : Int := -999999999 * day

def longestSpan : Int := 1000000000 * day - 1

def checkSpan (span : Int) : Except Fault Int :=
  if shortestSpan <= span && span <= longestSpan then .ok span else .error .tooLarge

/-- A quotient of an integer by a natural rounded to the nearest integer, a half to the even
one. -/
def roundRatio (numerator : Int) (denominator : Nat) : Int :=
  let floor := numerator / denominator
  let rest := numerator % denominator
  if 2 * rest < denominator then floor
  else if (denominator : Int) < 2 * rest then floor + 1
  else floor + floor % 2

def roundSum (whole : Int) (fraction : Float) : Int :=
  match parts fraction with
  | .finite negative mantissa exponent =>
    let size := magnitude mantissa exponent
    let numerator : Int := if negative then -(size.1 : Int) else size.1
    roundRatio (whole * size.2 + numerator) size.2
  | _ => whole

/-- An amount of a unit as whole microseconds and a fraction of one. The fraction of a double is
multiplied by the unit as doubles are. -/
def splitAmount (unit : Int) : Quantity -> Except Fault (Int × Float)
  | .whole value => .ok (value * unit, 0)
  | .real value => do
    let whole <- Quantity.truncate value
    let fraction := value - (ofInt? whole).getD 0
    if fraction == 0 then .ok (whole * unit, 0)
    else
      let product := (ofInt? unit).getD 0 * fraction
      let micros <- Quantity.truncate product
      .ok (whole * unit + micros, product - (ofInt? micros).getD 0)

def spanOf (unit : Int) (amount : Quantity) : Except Fault Int := do
  let (whole, fraction) <- splitAmount unit amount
  checkSpan (roundSum whole fraction)

def spanOfBoth (seconds minutes : Quantity) : Except Fault Int := do
  let (wholeSeconds, fractionSeconds) <- splitAmount second seconds
  let (wholeMinutes, fractionMinutes) <- splitAmount minute minutes
  checkSpan (roundSum (wholeSeconds + wholeMinutes) (fractionSeconds + fractionMinutes))

def spanSeconds (span : Int) : Float := (ofIntOver? span 1000000).getD 0

end SensorAlerting.Time
