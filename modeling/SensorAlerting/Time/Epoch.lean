import SensorAlerting.Time.Span

set_option autoImplicit false

/-!
Moments given as seconds since 1970. A double is rounded to the nearest microsecond, a half to the
even one, after its fraction has been scaled as doubles are.
-/

namespace SensorAlerting.Time

open SensorAlerting.Number

/-- Why seconds since 1970 are no moment: they do not fit 64 bits, their year does not fit the
system's calendar, their year is not one of 1 to 9999, or they are no number. -/
inductive EpochFault where
  | tooLarge
  | beyondSystem
  | outsideCalendar
  | undefined
deriving DecidableEq, Repr

def ofWholeSeconds (seconds micros : Int) : Except EpochFault Moment :=
  if seconds < -9223372036854775808 || 9223372036854775807 < seconds then .error .tooLarge
  else if seconds < -67768040609740800 || 67768036191676799 < seconds then .error .beyondSystem
  else if inCalendar (seconds * second) then .ok (universal (seconds * second + micros))
  else .error .outsideCalendar

def ofEpoch : Quantity -> Except EpochFault Moment
  | .whole seconds => ofWholeSeconds seconds 0
  | .real seconds =>
    match truncate? seconds with
    | none => .error (if isUndefined seconds then .undefined else .tooLarge)
    | some whole =>
      let fraction := (seconds - (ofInt? whole).getD 0) * 1000000
      let micros := roundSum 0 fraction
      if 1000000 <= micros then ofWholeSeconds (whole + 1) (micros - 1000000)
      else if micros < 0 then ofWholeSeconds (whole - 1) (micros + 1000000)
      else ofWholeSeconds whole micros

/-- The seconds since 1970 of a moment as a double. A moment without an offset is looked up in a
calendar that must also hold the day before it, and its fraction is added as doubles are. -/
def Moment.epochSeconds (moment : Moment) : Except EpochFault Float :=
  match moment.offset with
  | some _ => .ok (spanSeconds moment.instant)
  | none =>
    if moment.wall < firstWall + day then .error .outsideCalendar
    else .ok ((ofInt? (moment.wall / second)).getD 0 + spanSeconds (moment.wall % second))

end SensorAlerting.Time
