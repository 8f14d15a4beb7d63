import SensorAlerting.Time.Moment

set_option autoImplicit false

namespace SensorAlerting.Time

def daysBefore (year : Int) : Int := 365 * year + year / 4 - year / 100 + year / 400

/-- The year of a cycle that a day of it falls into. -/
def yearOfDay (number : Int) : Int :=
  (number - number / 1460 + number / 36524 - number / 146096) / 365

theorem yearOfDay_spec {number : Int} (notBefore : 0 <= number) (before : number < 146097) :
    0 <= yearOfDay number ∧ yearOfDay number < 400 ∧ daysBefore (yearOfDay number) <= number ∧
      number < daysBefore (yearOfDay number + 1) := by
  by_cases last : number = 146096
  next =>
    subst last
    decide
  next =>
    -- The day by its century, the years by how often four of them have passed in it.
    obtain ⟨century, isCentury⟩ : ∃ century, century = number / 36524 := ⟨_, rfl⟩
    obtain ⟨rest, isRest⟩ : ∃ rest, rest = number - 36524 * century := ⟨_, rfl⟩
    obtain ⟨leaps, isLeaps⟩ : ∃ leaps, leaps = (24 * century + rest) / 1460 := ⟨_, rfl⟩
    obtain ⟨year, isYear⟩ : ∃ year, year = (rest - leaps) / 365 := ⟨_, rfl⟩
    have centuries : 0 <= century ∧ century <= 3 := by omega
    have inCentury : 0 <= rest ∧ rest < 36524 := by omega
    have years : 0 <= year ∧ year < 100 := by omega
    have fewest : year / 4 <= leaps := by omega
    have most : leaps <= (year + 1) / 4 := by omega
    have isWhole : yearOfDay number = 100 * century + year := by
      have quarters : number / 1460 = 25 * century + leaps := by omega
      have noCycle : number / 146096 = 0 := by omega
      rw [yearOfDay, quarters, noCycle, <- isCentury]
      omega
    have parts : ∀ count, daysBefore (100 * century + count) =
        36524 * century + 365 * count + count / 4 - count / 100 +
          (100 * century + count) / 400 := by
      intro count
      simp only [daysBefore]
      omega
    have noCentury : year / 100 = 0 ∧ (100 * century + year) / 400 = 0 := by omega
    have next : (year + 1) / 100 = 0 ∨ year = 99 := by omega
    rw [isWhole, Int.add_assoc, parts year, parts (year + 1)]
    omega

theorem isLeap_iff {year : Int} :
    isLeap year = true ↔ year % 4 = 0 ∧ (year % 100 ≠ 0 ∨ year % 400 = 0) := by
  simp [isLeap]

def dateIn (cycle year day : Int) : Date :=
  let month := (5 * day + 2) / 153
  let calendarMonth := if month < 10 then month + 3 else month - 9
  { year := year + cycle * 400 + (if calendarMonth <= 2 then 1 else 0)
    month := calendarMonth.toNat
    day := (day - (153 * month + 2) / 5 + 1).toNat }

theorem ofDayNumber_eq (number : Int) :
    ∃ cycle year day, number + 719468 = cycle * 146097 + daysBefore year + day ∧
      0 <= year ∧ year < 400 ∧ 0 <= day ∧ daysBefore year + day < daysBefore (year + 1) ∧
      Date.ofDayNumber number = dateIn cycle year day := by
  have within : 0 <= (number + 719468) % 146097 ∧ (number + 719468) % 146097 < 146097 := by omega
  obtain ⟨notBefore, inCycle, started, goesOn⟩ := yearOfDay_spec within.1 within.2
  refine ⟨(number + 719468) / 146097, yearOfDay ((number + 719468) % 146097),
    (number + 719468) % 146097 - daysBefore (yearOfDay ((number + 719468) % 146097)),
    by omega, notBefore, inCycle, by omega, by omega, ?_⟩
  generalize isYear : yearOfDay ((number + 719468) % 146097) = year at *
  have same : daysBefore year = 365 * year + year / 4 - year / 100 := by
    simp only [daysBefore]
    omega
  rw [same, <- isYear]
  rfl

theorem dateIn_month (cycle year : Int) {day : Int} (notBefore : 0 <= day) (before : day <= 365) :
    1 <= (dateIn cycle year day).month ∧ (dateIn cycle year day).month <= 12 ∧
      1 <= (dateIn cycle year day).day := by
  simp only [dateIn]
  split <;> omega

theorem dayNumber_dateIn {cycle year day : Int} (notBefore : 0 <= year) (inCycle : year < 400)
    (started : 0 <= day) (before : day <= 365) :
    (dateIn cycle year day).dayNumber = cycle * 146097 + daysBefore year + day - 719468 := by
  have days : daysBefore year = 365 * year + year / 4 - year / 100 := by
    simp only [daysBefore]
    omega
  obtain ⟨month, isMonth⟩ : ∃ month, month = (5 * day + 2) / 153 := ⟨_, rfl⟩
  have passed : (153 * month + 2) / 5 <= day := by omega
  rw [days]
  simp only [Date.dayNumber, dateIn, <- isMonth]
  by_cases early : month < 10
  next =>
    have later : ¬ (month + 3).toNat <= 2 := by omega
    have there : ¬ month + 3 <= 2 := by omega
    simp only [early, later, there, if_true, if_false]
    omega
  next =>
    have later : (month - 9).toNat <= 2 := by omega
    have there : month - 9 <= 2 := by omega
    simp only [early, later, there, if_true, if_false]
    omega

theorem day_le_monthLength (cycle : Int) {year day : Int} (notBefore : 0 <= year)
    (inCycle : year < 400) (started : 0 <= day) (goesOn : daysBefore year + day < daysBefore (year + 1)) :
    (dateIn cycle year day).day <=
      monthLength (dateIn cycle year day).year (dateIn cycle year day).month := by
  have before : day <= 365 := by
    simp only [daysBefore] at goesOn
    omega
  obtain ⟨month, isMonth⟩ : ∃ month, month = (5 * day + 2) / 153 := ⟨_, rfl⟩
  have months : 0 <= month ∧ month <= 11 := by omega
  simp only [dateIn, <- isMonth]
  by_cases february : month = 11
  next =>
    subst february
    -- The last day of a year that ends in February is there in leap years only.
    have isFebruary : ¬ (11 : Int) < 10 ∧ ((11 : Int) - 9).toNat = 2 ∧ (11 : Int) - 9 <= 2 := by
      decide
    simp only [isFebruary, if_false, if_true, monthLength, beq_self_eq_true]
    cases leap : isLeap (year + cycle * 400 + 1) with
    | true =>
      simp only [if_true]
      omega
    | false =>
      have common : ¬ ((year + cycle * 400 + 1) % 4 = 0 ∧ ((year + cycle * 400 + 1) % 100 ≠ 0 ∨
          (year + cycle * 400 + 1) % 400 = 0)) := by
        rw [<- isLeap_iff, leap]
        exact Bool.false_ne_true
      have shorter : day < 365 := by
        simp only [daysBefore] at goesOn
        omega
      simp only [Bool.false_eq_true, if_false]
      omega
  next =>
    obtain rfl | rfl | rfl | rfl | rfl | rfl | rfl | rfl | rfl | rfl | rfl :
      month = 0 ∨ month = 1 ∨ month = 2 ∨ month = 3 ∨ month = 4 ∨ month = 5 ∨ month = 6 ∨
        month = 7 ∨ month = 8 ∨ month = 9 ∨ month = 10 := by omega
    all_goals simp [monthLength]; omega

theorem dayNumber_ofDayNumber (number : Int) : (Date.ofDayNumber number).dayNumber = number := by
  obtain ⟨cycle, year, day, isNumber, notBefore, inCycle, started, goesOn, isDate⟩ :=
    ofDayNumber_eq number
  have before : day <= 365 := by
    simp only [daysBefore] at goesOn
    omega
  rw [isDate, dayNumber_dateIn notBefore inCycle started before]
  omega

def firstDay : Int := -719162

def lastDay : Int := 2932896

theorem isValid_ofDayNumber {number : Int} (first : firstDay <= number)
    (last : number <= lastDay) : (Date.ofDayNumber number).isValid = true := by
  obtain ⟨cycle, year, day, isNumber, notBefore, inCycle, started, goesOn, isDate⟩ :=
    ofDayNumber_eq number
  have before : day <= 365 := by
    simp only [daysBefore] at goesOn
    omega
  obtain ⟨month, most, someDay⟩ := dateIn_month cycle year started before
  have within := day_le_monthLength cycle notBefore inCycle started goesOn
  have years : 1 <= (dateIn cycle year day).year ∧ (dateIn cycle year day).year <= 9999 := by
    simp only [daysBefore] at isNumber goesOn
    simp only [firstDay, lastDay] at first last
    simp only [dateIn]
    split <;> omega
  simp only [Date.isValid, Bool.and_eq_true, decide_eq_true_eq, isDate]
  exact ⟨⟨⟨⟨⟨years.1, years.2⟩, month⟩, most⟩, someDay⟩, within⟩

end SensorAlerting.Time
