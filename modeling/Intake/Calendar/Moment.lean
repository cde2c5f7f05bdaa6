import Intake.Calendar.Date

/-!
# Readings, offsets and moments

A reading is what a calendar and a clock on the wall show.  A moment is a reading in UTC together
with the offset of the zone it is shown in.  A leap second is the last second of a minute with a
billion or more nanoseconds.
-/

namespace Intake.Calendar

/-- Seconds east of UTC, less than a day either way. -/
structure Offset where
  seconds : Int
  inRange : -86400 < seconds ∧ seconds < 86400 := by decide
  deriving DecidableEq

def Offset.utc : Offset where
  seconds := 0

instance : Inhabited Offset := ⟨Offset.utc⟩

def Offset.ofSeconds? (seconds : Int) : Option Offset :=
  if h : -86400 < seconds ∧ seconds < 86400 then some ⟨seconds, h⟩ else none

/-- A time of the day: the second of the day and the nanoseconds into it. -/
structure Clock where
  second : Nat
  nano : Nat
  second_lt : second < 86400 := by omega
  nano_lt : nano < 2000000000 := by omega
  deriving DecidableEq

def Clock.midnight : Clock where
  second := 0
  nano := 0

def Clock.ofParts? (hour minute second nano : Nat) : Option Clock :=
  if h : hour < 24 ∧ minute < 60 ∧ second < 60 ∧ nano < 2000000000 then
    some { second := hour * 3600 + minute * 60 + second, nano }
  else
    none

structure Reading where
  date : Date
  clock : Clock
  deriving DecidableEq

/-- The seconds of a reading since 1970-01-01T00:00:00, had it been made in UTC. -/
def Reading.seconds (reading : Reading) : Int :=
  reading.date.number * 86400 + reading.clock.second

/-- The reading that many seconds after 1970-01-01T00:00:00. -/
def Reading.ofSeconds? (seconds : Int) (nano : Nat) : Option Reading :=
  (Date.ofNumber? (seconds / 86400)).bind fun date =>
    if h : nano < 2000000000 then
      some ⟨date, { second := (seconds % 86400).toNat, nano, second_lt := by omega }⟩
    else
      none

/-- A point in time and the offset it is shown in. -/
structure Moment where
  utc : Reading
  offset : Offset
  deriving DecidableEq

namespace Moment

/-- The moment at which a place with the offset has the reading. -/
def ofLocal? (reading : Reading) (offset : Offset) : Option Moment :=
  (Reading.ofSeconds? (reading.seconds - offset.seconds) reading.clock.nano).map fun utc =>
    { utc, offset }

/-- The moment that many seconds after 1970-01-01T00:00:00Z, shown in UTC. -/
def ofEpoch? (seconds : Int) (nano : Nat) : Option Moment :=
  (Reading.ofSeconds? seconds nano).map fun utc => { utc, offset := .utc }

def shownIn (moment : Moment) (offset : Offset) : Moment :=
  { moment with offset }

/-- The seconds of the local reading, counted as those of a reading. -/
def localSeconds (moment : Moment) : Int :=
  moment.utc.seconds + moment.offset.seconds

def same (a b : Moment) : Bool :=
  a.utc == b.utc

end Moment

end Intake.Calendar
