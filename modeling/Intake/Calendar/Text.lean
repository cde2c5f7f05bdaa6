import Intake.Calendar.Moment
import Intake.Numeral

/-!
# The texts of dates and moments

Dates are written `YYYY-MM-DD` and moments as in RFC 3339.  A year outside of 0 to 9999 has a sign.
The fraction of a second has as many groups of three digits as it needs.  An offset is rounded to
the nearest minute.
-/

namespace Intake.Calendar

/-- A number with zeros in front up to a width. -/
def padded (width n : Nat) : List Char :=
  let digits := decimalDigits n
  List.replicate (width - digits.length) '0' ++ digits

/-- A year, of four digits at least. -/
def yearText (year : Int) : List Char :=
  if 0 ≤ year ∧ year ≤ 9999 then padded 4 year.toNat
  else (if year < 0 then '-' else '+') :: padded 4 year.natAbs

def civilText (year : Int) (month day : Nat) : List Char :=
  yearText year ++ '-' :: padded 2 month ++ '-' :: padded 2 day

def Date.text (date : Date) : String :=
  String.ofList (civilText date.year date.month date.day)

/-- The fraction of a second, with the point in front of it. -/
def fractionText (nano : Nat) : List Char :=
  if nano = 0 then []
  else if nano % 1000000 = 0 then '.' :: padded 3 (nano / 1000000)
  else if nano % 1000 = 0 then '.' :: padded 6 (nano / 1000)
  else '.' :: padded 9 nano

/-- A time of the day; a leap second is second 60. -/
def clockText (second nano : Nat) : List Char :=
  let leap := 1000000000 ≤ nano
  let shown := if leap then second % 60 + 1 else second % 60
  padded 2 (second / 3600) ++ ':' :: padded 2 (second / 60 % 60) ++ ':' :: padded 2 shown ++
    fractionText (if leap then nano - 1000000000 else nano)

def Offset.text (offset : Offset) : List Char :=
  let minutes := (offset.seconds.natAbs + 30) / 60
  (if offset.seconds < 0 then '-' else '+') :: padded 2 (minutes / 60) ++
    ':' :: padded 2 (minutes % 60)

def Moment.text (moment : Moment) : String :=
  let seconds := moment.localSeconds
  let (year, month, day) := civil (seconds / 86400)
  String.ofList
    (civilText year month day ++ 'T' :: clockText (seconds % 86400).toNat moment.utc.clock.nano ++
      moment.offset.text)

end Intake.Calendar
