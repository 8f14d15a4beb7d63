import SensorAlerting.Time.Calendar
import SensorAlerting.Number.Text

set_option autoImplicit false

/-!
Points in time. A moment keeps what its clock showed and, if it is known, the offset of that
clock from universal time; both are counted in microseconds.
-/

namespace SensorAlerting.Time

def second : Int := 1000000

def minute : Int := 60 * second

def hour : Int := 60 * minute

def day : Int := 24 * hour

structure Moment where
  wall : Int
  offset : Option Int
deriving DecidableEq, Repr

def firstWall : Int := -62135596800 * second

def lastWall : Int := 253402300800 * second - 1

def inCalendar (wall : Int) : Bool := firstWall <= wall && wall <= lastWall

def universal (wall : Int) : Moment := { wall, offset := some 0 }

/-- The microseconds since the start of 1970 in universal time; a moment without an offset counts
as universal. -/
def Moment.instant (moment : Moment) : Int := moment.wall - moment.offset.getD 0

/-- The same wall time, read as universal where no offset is known. -/
def Moment.withOffset (moment : Moment) : Moment :=
  { moment with offset := some (moment.offset.getD 0) }

/-- A moment later by a span, none when that leaves the calendar. -/
def Moment.add? (moment : Moment) (span : Int) : Option Moment :=
  if inCalendar (moment.wall + span) then some { moment with wall := moment.wall + span } else none

def Moment.since (later earlier : Moment) : Int := later.instant - earlier.instant

def padded (width value : Nat) : List Char :=
  let digits := Number.natChars value
  Number.zeros (width - digits.length) ++ digits

def dateChars (date : Date) : List Char :=
  padded 4 date.year.toNat ++ '-' :: padded 2 date.month ++ '-' :: padded 2 date.day

def fractionChars (micros : Nat) : List Char :=
  if micros == 0 then [] else '.' :: padded 6 micros

def clockChars (micros : Nat) : List Char :=
  let seconds := micros / 1000000
  padded 2 (seconds / 3600) ++ ':' :: padded 2 (seconds / 60 % 60) ++ ':' ::
    padded 2 (seconds % 60) ++ fractionChars (micros % 1000000)

/-- An offset in hours and minutes, with seconds only where it has some. -/
def offsetChars (offset : Int) : List Char :=
  let micros := offset.natAbs
  let seconds := micros / 1000000
  let fraction := micros % 1000000
  (if offset < 0 then '-' else '+') :: padded 2 (seconds / 3600) ++ ':' ::
    padded 2 (seconds / 60 % 60) ++
    (if seconds % 60 == 0 && fraction == 0 then []
      else ':' :: padded 2 (seconds % 60) ++ fractionChars fraction)

def Moment.wallChars (moment : Moment) (mark : Char) : List Char :=
  dateChars (Date.ofDayNumber (moment.wall / day)) ++
    mark :: clockChars (moment.wall % day).toNat

def Moment.isoChars (moment : Moment) : List Char :=
  moment.wallChars 'T' ++ (moment.offset.map offsetChars).getD []

def Moment.isoText (moment : Moment) : String := String.ofList moment.isoChars

def Moment.spacedText (moment : Moment) : String :=
  String.ofList (moment.wallChars ' ' ++ (moment.offset.map offsetChars).getD [])

/-- An offset in hours and minutes: what is below a second is cut off downward, what is below a
minute toward nought. Without a whole second it is universal time. -/
def shortOffsetChars (offset : Int) : List Char :=
  let seconds := offset / second
  if seconds == 0 then ['Z']
  else
    (if seconds < 0 then '-' else '+') :: padded 2 (seconds.natAbs / 3600) ++ ':' ::
      padded 2 (seconds.natAbs / 60 % 60)

def Moment.zuluText (moment : Moment) : String :=
  String.ofList <| moment.wallChars 'T' ++ (moment.offset.map shortOffsetChars).getD []

end SensorAlerting.Time
