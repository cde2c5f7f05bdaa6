import Intake.Calendar.Moment
import Intake.Numeral
import Intake.Text.Blank
import Intake.Text.Case

/-!
# Zone texts

A zone is written `UTC`, `Z` or `GMT`, in any case, or as an offset: a sign, two digits of hours,
and two digits of minutes, if any, with or without a colon before them.
-/

namespace Intake.Zone

/-- The number that two ASCII digits make, up to a greatest one. -/
def pair? (greatest : Nat) (a b : Char) : Option Nat :=
  let n := digitsValue [a, b]
  if a.isDigit && b.isDigit && n ≤ greatest then some n else none

def minutes? : List Char → Option Nat
  | [] => some 0
  | [a, b] => pair? 59 a b
  | [':', a, b] => pair? 59 a b
  | _ => none

/-- The seconds of an offset after its sign. -/
def seconds? : List Char → Option Nat
  | a :: b :: rest => do
    let hours ← pair? 23 a b
    let minutes ← minutes? rest
    return hours * 3600 + minutes * 60
  | _ => none

def signed? : List Char → Option Calendar.Offset
  | '+' :: rest => (seconds? rest).bind fun n => Calendar.Offset.ofSeconds? n
  | '-' :: rest => (seconds? rest).bind fun n => Calendar.Offset.ofSeconds? (-n)
  | _ => none

/-- The offset that a zone text stands for, blanks around it left aside. -/
def read? (s : String) : Option Calendar.Offset :=
  let zone := Text.trim s
  if ["utc", "z", "gmt"].contains (Text.lowerAscii zone) then some .utc
  else signed? zone.toList

end Intake.Zone
