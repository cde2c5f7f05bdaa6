/-!
# Calendar dates

Dates of the proleptic Gregorian calendar, with a year zero, from year -262143 to year 262142.  A
day number counts the days from 1970-01-01.
-/

namespace Intake.Calendar

def leastYear : Int := -262143
def greatestYear : Int := 262142

def isLeap (year : Int) : Bool :=
  year % 4 = 0 && (year % 100 ≠ 0 || year % 400 = 0)

def daysInMonth (year : Int) (month : Nat) : Nat :=
  if month = 2 then if isLeap year then 29 else 28
  else if month = 4 || month = 6 || month = 9 || month = 11 then 30
  else 31

def daysInYear (year : Int) : Nat :=
  if isLeap year then 366 else 365

def IsDate (year : Int) (month day : Nat) : Prop :=
  leastYear ≤ year ∧ year ≤ greatestYear ∧ 1 ≤ month ∧ month ≤ 12 ∧
    1 ≤ day ∧ day ≤ daysInMonth year month

instance (year : Int) (month day : Nat) : Decidable (IsDate year month day) :=
  inferInstanceAs (Decidable (_ ∧ _ ∧ _ ∧ _ ∧ _ ∧ _))

structure Date where
  year : Int
  month : Nat
  day : Nat
  isDate : IsDate year month day
  deriving DecidableEq

/-- The day number of a year, a month and a day.  Years are counted from March, so that the leap day
is the last day of a year. -/
def dayNumber (year : Int) (month day : Nat) : Int :=
  let y := if month ≤ 2 then year - 1 else year
  let era := y / 400
  let yearOfEra := y % 400
  let monthFromMarch : Int := (month + 9) % 12
  let dayOfYear := (153 * monthFromMarch + 2) / 5 + day - 1
  let dayOfEra := yearOfEra * 365 + yearOfEra / 4 - yearOfEra / 100 + dayOfYear
  era * 146097 + dayOfEra - 719468

/-- The year, the month and the day of a day number. -/
def civil (number : Int) : Int × Nat × Nat :=
  let shifted := number + 719468
  let era := shifted / 146097
  let dayOfEra := shifted % 146097
  let yearOfEra := (dayOfEra - dayOfEra / 1460 + dayOfEra / 36524 - dayOfEra / 146096) / 365
  let dayOfYear := dayOfEra - (365 * yearOfEra + yearOfEra / 4 - yearOfEra / 100)
  let monthFromMarch := (5 * dayOfYear + 2) / 153
  let day := dayOfYear - (153 * monthFromMarch + 2) / 5 + 1
  let month := if monthFromMarch < 10 then monthFromMarch + 3 else monthFromMarch - 9
  let year := yearOfEra + era * 400
  (if month ≤ 2 then year + 1 else year, month.toNat, day.toNat)

namespace Date

def ofCivil? (year : Int) (month day : Nat) : Option Date :=
  if h : IsDate year month day then some ⟨year, month, day, h⟩ else none

def ofNumber? (number : Int) : Option Date :=
  let (year, month, day) := civil number
  ofCivil? year month day

def number (date : Date) : Int :=
  dayNumber date.year date.month date.day

/-- The day of the year, from one. -/
def ordinal (date : Date) : Int :=
  date.number - dayNumber date.year 1 1 + 1

def ofOrdinal? (year ordinal : Int) : Option Date :=
  if leastYear ≤ year ∧ year ≤ greatestYear ∧ 1 ≤ ordinal ∧ ordinal ≤ daysInYear year then
    ofNumber? (dayNumber year 1 1 + ordinal - 1)
  else
    none

def quarter (date : Date) : Int :=
  (date.month + 2) / 3

end Date

/-- The day of the week of a day number, from Monday as zero. -/
def weekday (number : Int) : Int :=
  (number + 3) % 7

namespace Date

def weekday (date : Date) : Int :=
  Calendar.weekday date.number

/-- The number of the week in the year, where weeks start on the given day of the week and the days
before the first such day are in week zero. -/
def weekFrom (date : Date) (start : Int) : Int :=
  (date.ordinal - (date.weekday - start) % 7 + 6) / 7

/-- The year and the number of the ISO week, which are those of its Thursday. -/
def isoWeek (date : Date) : Int × Int :=
  let thursday := date.number - date.weekday + 3
  let (year, _, _) := civil thursday
  (year, (thursday - dayNumber year 1 1) / 7 + 1)

def ofIsoWeek? (year week weekday : Int) : Option Date :=
  let fourth := dayNumber year 1 4
  let monday := fourth - Calendar.weekday fourth + 7 * (week - 1)
  if 1 ≤ week ∧ (civil (monday + 3)).1 = year then ofNumber? (monday + weekday) else none

/-- The date on a day of a week that is counted from the first such start day of the year. -/
def ofWeekFrom? (year week weekday start : Int) : Option Date :=
  let first := dayNumber year 1 1
  let ordinal :=
    1 + (start - Calendar.weekday first) % 7 + (week - 1) * 7 + (weekday - start) % 7
  ofOrdinal? year ordinal

end Date

end Intake.Calendar
