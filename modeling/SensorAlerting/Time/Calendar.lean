set_option autoImplicit false

/-!
The Gregorian calendar, extended to all years: day numbers count from 1970-01-01. Also the week
calendar, in which weeks start on Monday and week 1 holds the first Thursday of the year.
-/

namespace SensorAlerting.Time

structure Date where
  year : Int
  month : Nat
  day : Nat
deriving DecidableEq, Repr

def isLeap (year : Int) : Bool :=
  year % 4 == 0 && (year % 100 != 0 || year % 400 == 0)

def monthLength (year : Int) (month : Nat) : Nat :=
  if month == 2 then (if isLeap year then 29 else 28)
  else if month == 4 || month == 6 || month == 9 || month == 11 then 30
  else 31

def Date.isValid (date : Date) : Bool :=
  1 <= date.year && date.year <= 9999 && 1 <= date.month && date.month <= 12 &&
    1 <= date.day && date.day <= monthLength date.year date.month

/-- The day number of a date. Years are taken to start in March, so that a leap day ends one. -/
def Date.dayNumber (date : Date) : Int :=
  let year := if date.month <= 2 then date.year - 1 else date.year
  let month : Int := if date.month <= 2 then date.month + 9 else date.month - 3
  let cycle := year / 400
  let yearOfCycle := year % 400
  let dayOfYear := (153 * month + 2) / 5 + date.day - 1
  cycle * 146097 + (yearOfCycle * 365 + yearOfCycle / 4 - yearOfCycle / 100 + dayOfYear) - 719468

def Date.ofDayNumber (number : Int) : Date :=
  let shifted := number + 719468
  let cycle := shifted / 146097
  let dayOfCycle := shifted % 146097
  let yearOfCycle :=
    (dayOfCycle - dayOfCycle / 1460 + dayOfCycle / 36524 - dayOfCycle / 146096) / 365
  let dayOfYear := dayOfCycle - (365 * yearOfCycle + yearOfCycle / 4 - yearOfCycle / 100)
  let month := (5 * dayOfYear + 2) / 153
  let day := dayOfYear - (153 * month + 2) / 5 + 1
  let calendarMonth := if month < 10 then month + 3 else month - 9
  { year := yearOfCycle + cycle * 400 + (if calendarMonth <= 2 then 1 else 0)
    month := calendarMonth.toNat
    day := day.toNat }

def weekday (number : Int) : Int := (number + 3) % 7

def weekOne (year : Int) : Int :=
  let first := Date.dayNumber ⟨year, 1, 1⟩
  let monday := first - weekday first
  if 3 < weekday first then monday + 7 else monday

/-- The day of a week date; week 53 exists in long years only. -/
def ofWeek? (year : Int) (week day : Nat) : Option Date :=
  let first := weekday (Date.dayNumber ⟨year, 1, 1⟩)
  let long := first == 3 || (first == 2 && isLeap year)
  if year < 1 || week == 0 || 53 < week || (week == 53 && !long) || day == 0 || 7 < day then none
  else some (Date.ofDayNumber (weekOne year + ((week - 1) * 7 + (day - 1) : Nat)))

end SensorAlerting.Time
