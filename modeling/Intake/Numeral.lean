/-!
# Numerals

The grammar of numbers in texts.  Digits are ASCII digits; single underscores may stand between
them.  An integer is digits with an optional sign.  A numeral may go on with a point and more digits
and with an exponent, `e` or `E` and an integer without underscores.
-/

namespace Intake

def digitValue (c : Char) : Nat :=
  c.toNat - '0'.toNat

def digitsValue (digits : List Char) : Nat :=
  digits.foldl (fun acc c => 10 * acc + digitValue c) 0

def decimalDigits (n : Nat) : List Char :=
  Nat.toDigits 10 n

namespace Numeral

/-- Reads an optional sign; `true` stands for a minus. -/
def takeSign : List Char → Bool × List Char
  | '-' :: rest => (true, rest)
  | '+' :: rest => (false, rest)
  | rest => (false, rest)

def startsWithDigit : List Char → Bool
  | [] => false
  | c :: _ => c.isDigit

/-- Reads as many digits as there are, with single underscores between digits passed over. -/
def takeGroups : List Char → List Char × List Char
  | [] => ([], [])
  | c :: rest =>
    if c.isDigit then
      match rest with
      | '_' :: tail =>
        if startsWithDigit tail then
          let (digits, rest) := takeGroups tail
          (c :: digits, rest)
        else
          ([c], '_' :: tail)
      | rest =>
        let (digits, rest) := takeGroups rest
        (c :: digits, rest)
    else
      ([], c :: rest)

def integer? (cs : List Char) : Option Int :=
  let (negative, body) := takeSign cs
  match takeGroups body with
  | (c :: digits, []) =>
    let n := digitsValue (c :: digits)
    some (if negative then -n else n)
  | _ => none

/-- The integer that a text denotes, no underscores allowed. -/
def plainInteger? (cs : List Char) : Option Int :=
  let (negative, digits) := takeSign cs
  if !digits.isEmpty && digits.all Char.isDigit then
    some (if negative then -(digitsValue digits) else digitsValue digits)
  else
    none

end Numeral

/-- A numeral: the digits before and after the point, and the exponent where one is written. -/
structure Numeral where
  negative : Bool
  whole : List Char
  fraction : List Char
  exponent : Option Int
  deriving DecidableEq

namespace Numeral

/-- Reads a point and the digits after it, where there are both. -/
def takeFraction : List Char → List Char × List Char
  | '.' :: rest =>
    match takeGroups rest with
    | ([], _) => ([], '.' :: rest)
    | (digits, rest) => (digits, rest)
  | rest => ([], rest)

/-- Reads an exponent that goes to the end of the text; `some none` where there is none. -/
def exponent? : List Char → Option (Option Int)
  | [] => some none
  | c :: rest =>
    if c = 'e' || c = 'E' then (plainInteger? rest).map some else none

/-- Reads a numeral that is the whole text. -/
def read? (cs : List Char) : Option Numeral :=
  let (negative, body) := takeSign cs
  match takeGroups body with
  | ([], _) => none
  | (whole, rest) =>
    let (fraction, rest) := takeFraction rest
    (exponent? rest).map fun exponent => { negative, whole, fraction, exponent }

/-- All digits of a numeral as one number; the numeral stands for it times a power of ten. -/
def coefficient (numeral : Numeral) : Nat :=
  digitsValue (numeral.whole ++ numeral.fraction)

/-- The power of ten that goes with the coefficient. -/
def power (numeral : Numeral) : Int :=
  numeral.exponent.getD 0 - numeral.fraction.length

end Numeral

end Intake
