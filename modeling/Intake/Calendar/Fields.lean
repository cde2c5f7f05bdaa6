import Intake.Calendar.Moment

/-!
# Fields of a date and a time

A text is read field by field, and the same field may be read twice as long as the values agree.
From the fields a date is resolved in one of five ways, by year with month and day, with the day of
the year, with a week that starts on Sunday or on Monday, or by ISO week; all other fields have to
agree with it.  A timestamp stands in for fields that are missing.
-/

namespace Intake.Calendar

/-- What was read of a date and a time.  Weekdays count from Monday as zero; the hour is split into
its half of the day and the hour of that half. -/
structure Fields where
  year : Option Int := none
  century : Option Int := none
  yearOfCentury : Option Int := none
  isoYear : Option Int := none
  isoYearOfCentury : Option Int := none
  quarter : Option Int := none
  month : Option Int := none
  day : Option Int := none
  weekFromSunday : Option Int := none
  weekFromMonday : Option Int := none
  isoWeek : Option Int := none
  weekday : Option Int := none
  ordinal : Option Int := none
  halfDay : Option Int := none
  hourOfHalf : Option Int := none
  minute : Option Int := none
  second : Option Int := none
  nano : Option Int := none
  timestamp : Option Int := none
  offset : Option Int := none

/-- Why fields give no date or time. -/
inductive Flaw where
  | incomplete
  | contradictory
  deriving DecidableEq

/-- A field that has no value yet, or has this one, gets the value. -/
def agree? (field : Option Int) (value : Int) : Option (Option Int) :=
  match field with
  | none => some (some value)
  | some old => if old = value then some (some old) else none

/-- Whether a field, if it was read, has this value. -/
def agrees (field : Option Int) (value : Int) : Bool :=
  match field with
  | none => true
  | some read => read == value

/-- Whether the parts of a year, if they were read, are those of this year; the parts of a negative
year agree with none. -/
def partsAgree (century yearOfCentury : Option Int) (year : Int) : Bool :=
  if 0 ≤ year then agrees century (year / 100) && agrees yearOfCentury (year % 100)
  else century.isNone && yearOfCentury.isNone

/-- The year that a full year and its parts give, if any.  A year of the century on its own stands
for 1970 to 2069. -/
def resolveYear (year century yearOfCentury : Option Int) : Except Flaw (Option Int) :=
  match year, century, yearOfCentury with
  | year, none, none => .ok year
  | some y, c, r => if partsAgree c r y then .ok (some y) else .error .contradictory
  | none, some c, some r => .ok (some (c * 100 + r))
  | none, none, some r => .ok (some (if r < 70 then r + 2000 else r + 1900))
  | none, some _, none => .error .incomplete

namespace Fields

def agreesCivil (fields : Fields) (date : Date) : Bool :=
  agrees fields.year date.year && partsAgree fields.century fields.yearOfCentury date.year &&
    agrees fields.month date.month && agrees fields.day date.day

def agreesIsoWeek (fields : Fields) (date : Date) : Bool :=
  let (year, week) := date.isoWeek
  agrees fields.isoYear year && partsAgree none fields.isoYearOfCentury year &&
    agrees fields.isoWeek week && agrees fields.weekday date.weekday

def agreesOrdinal (fields : Fields) (date : Date) : Bool :=
  agrees fields.ordinal date.ordinal && agrees fields.weekFromSunday (date.weekFrom 6) &&
    agrees fields.weekFromMonday (date.weekFrom 0)

/-- The date that has to be there, or else the fields contradict the calendar. -/
def required (date : Option Date) : Except Flaw Date :=
  match date with
  | some date => .ok date
  | none => .error .contradictory

/-- The date that the leading fields give. -/
def candidate (fields : Fields) (year isoYear : Option Int) : Except Flaw Date :=
  match year, fields.month, fields.day with
  | some y, some m, some d => required (Date.ofCivil? y m.toNat d.toNat)
  | _, _, _ =>
  match year, fields.ordinal with
  | some y, some n => required (Date.ofOrdinal? y n)
  | _, _ =>
  match year, fields.weekFromSunday, fields.weekday with
  | some y, some w, some d => required (Date.ofWeekFrom? y w d 6)
  | _, _, _ =>
  match year, fields.weekFromMonday, fields.weekday with
  | some y, some w, some d => required (Date.ofWeekFrom? y w d 0)
  | _, _, _ =>
  match isoYear, fields.isoWeek, fields.weekday with
  | some y, some w, some d => required (Date.ofIsoWeek? y w d)
  | _, _, _ => .error .incomplete

def date (fields : Fields) : Except Flaw Date := do
  let year ← resolveYear fields.year fields.century fields.yearOfCentury
  let isoYear ← resolveYear fields.isoYear none fields.isoYearOfCentury
  let date ← fields.candidate year isoYear
  if fields.agreesCivil date && fields.agreesIsoWeek date && fields.agreesOrdinal date &&
      agrees fields.quarter date.quarter then
    return date
  else
    throw .contradictory

/-- The time of the day of the fields.  Seconds may be missing, but not before their fraction; a
second 60 is a leap second. -/
def clock (fields : Fields) : Except Flaw Clock :=
  match fields.halfDay, fields.hourOfHalf, fields.minute with
  | some half, some hour, some minute =>
    if fields.second.isNone && fields.nano.isSome then .error .incomplete
    else
      let second := (fields.second.getD 0).toNat
      let nano := (fields.nano.getD 0).toNat
      let hour := (half * 12 + hour).toNat
      let clock :=
        if second = 60 then Clock.ofParts? hour minute.toNat 59 (nano + 1000000000)
        else Clock.ofParts? hour minute.toNat second nano
      match clock with
      | some clock => .ok clock
      | none => .error .contradictory
  | _, _, _ => .error .incomplete

/-- Whether the timestamp, if it was read, is that of the reading at the offset; in a leap second it
may be the next one. -/
def agreesTimestamp (fields : Fields) (reading : Reading) (offset : Int) : Bool :=
  match fields.timestamp with
  | none => true
  | some timestamp =>
    let seconds := reading.seconds - offset
    timestamp == seconds || (1000000000 ≤ reading.clock.nano && timestamp == seconds + 1)

/-- The fields with those that a timestamp gives at the offset filled in, where they agree. -/
def fillFrom? (fields : Fields) (timestamp offset : Int) : Option Fields := do
  let seconds := timestamp + offset
  let reading ← Reading.ofSeconds? seconds 0
  let leap := fields.second == some 60
  let ofMinute := seconds % 60
  guard (!leap || ofMinute == 59 || ofMinute == 0)
  let reading ←
    if leap && ofMinute == 0 then Reading.ofSeconds? (seconds - 1) 0 else some reading
  let hour := reading.clock.second / 3600
  return { fields with
    second := ←
      if leap then some fields.second else agree? fields.second (reading.clock.second % 60)
    year := ← agree? fields.year reading.date.year
    ordinal := ← agree? fields.ordinal reading.date.ordinal
    halfDay := ← agree? fields.halfDay (hour / 12)
    hourOfHalf := ← agree? fields.hourOfHalf (hour % 12)
    minute := ← agree? fields.minute (reading.clock.second / 60 % 60) }

/-- The date and the time of the fields, for a timestamp that is read at the offset. -/
def reading? (fields : Fields) (offset : Int) : Option Reading :=
  match fields.date, fields.clock, fields.timestamp with
  | .ok date, .ok clock, _ =>
    let reading := ⟨date, clock⟩
    if fields.agreesTimestamp reading offset then some reading else none
  | .error .contradictory, _, _ => none
  | _, .error .contradictory, _ => none
  | _, _, none => none
  | _, _, some timestamp =>
    (fields.fillFrom? timestamp offset).bind fun fields =>
      match fields.date, fields.clock with
      | .ok date, .ok clock => some ⟨date, clock⟩
      | _, _ => none

/-- The date of the fields, whatever their time is. -/
def date? (fields : Fields) : Option Date :=
  fields.date.toOption

end Fields

end Intake.Calendar
