import Intake.Binary64
import Intake.Calendar.Date
import Intake.Toml
import Intake.Toml.Lexical

/-!
# Numbers, booleans, dates and times of TOML

Everything that is written without quotes and brackets: the text up to the next separator.
-/

namespace Intake.Toml

def isUnquoted (c : Char) : Bool :=
  c.isAlphanum || c = '+' || c = '-' || c = '.' || c = '_' || c = ':'

/-- The value of digits of a base, with single underscores between them. -/
def basedValue? (base : Nat) (digits : List Char) : Option Nat :=
  let rec go (before : Bool) (acc : Nat) : List Char → Option Nat
    | [] => if before then some acc else none
    | c :: rest =>
      if c = '_' then
        if before && !rest.isEmpty && rest.head? ≠ some '_' then go true acc rest else none
      else (hexValue? [c]).bind fun d => if d < base then go true (base * acc + d) rest else none
  match digits with
  | '_' :: _ => none
  | digits => go false 0 digits

/-- An integer of 128 bits, with or without a sign. -/
def boundedInteger? (n : Int) : Option Toml :=
  if -0x80000000000000000000000000000000 ≤ n ∧ n < 0x100000000000000000000000000000000 then
    some (integer n)
  else
    none

/-- Whether the digits of a number have a zero too many in front. -/
def hasLeadingZero : List Char → Bool
  | '0' :: _ :: _ => true
  | _ => false

def decimalInteger? (cs : List Char) : Option Toml :=
  let (_, digits) := Numeral.takeSign cs
  if hasLeadingZero digits then none else (Numeral.integer? cs).bind boundedInteger?

def floatExponent? : List Char → Option Int
  | c :: rest => if c = 'e' || c = 'E' then Numeral.integer? rest else none
  | [] => none

/-- A float that is written as a numeral; one that is too large for a double is refused. -/
def boundedFloat? (numeral : Numeral) : Option Toml :=
  let x := Binary64.ofNumeral numeral
  if Binary64.isFinite x then some (float x) else none

def decimalFloat? (cs : List Char) : Option Toml := do
  let (negative, body) := Numeral.takeSign cs
  let (whole, rest) := Numeral.takeGroups body
  if whole.isEmpty || hasLeadingZero whole then none
  let (fraction, rest) := Numeral.takeFraction rest
  if fraction.isEmpty || !rest.isEmpty then
    let exponent ← floatExponent? rest
    boundedFloat? ⟨negative, whole, fraction, some exponent⟩
  else
    boundedFloat? ⟨negative, whole, fraction, none⟩

/-- Infinity or a NaN, with or without a sign. -/
def specialFloat? (cs : List Char) : Option Toml :=
  let (negative, name) := Numeral.takeSign cs
  if name = ['i', 'n', 'f'] then
    some (float (Float.ofBits (if negative then 0xfff0000000000000 else 0x7ff0000000000000)))
  else if name = ['n', 'a', 'n'] then some (float (Float.ofBits 0x7ff8000000000000))
  else none

/-! ### Dates and times -/

/-- Reads two digits of a number within bounds. -/
def takePair? (least greatest : Nat) : List Char → Option (Nat × List Char)
  | a :: b :: rest =>
    let n := digitsValue [a, b]
    if a.isDigit && b.isDigit && least ≤ n && n ≤ greatest then some (n, rest) else none
  | _ => none

def takeChar? (c : Char) : List Char → Option (List Char)
  | d :: rest => if d = c then some rest else none
  | [] => none

def takeDate? (cs : List Char) : Option (List Char) := do
  let year := cs.take 4
  if year.length < 4 || !year.all Char.isDigit then none
  let rest ← takeChar? '-' (cs.drop 4)
  let (month, rest) ← takePair? 1 12 rest
  let rest ← takeChar? '-' rest
  let (_, rest) ← takePair? 1 (Calendar.daysInMonth (digitsValue year) month) rest
  return rest

def takeSecondFraction? : List Char → Option (List Char)
  | '.' :: rest => if Numeral.startsWithDigit rest then some (rest.dropWhile Char.isDigit) else none
  | rest => some rest

/-- Reads a time; seconds may be left out. -/
def takeTime? (cs : List Char) : Option (List Char) := do
  let (_, rest) ← takePair? 0 23 cs
  let rest ← takeChar? ':' rest
  let (_, rest) ← takePair? 0 59 rest
  match rest with
  | ':' :: rest =>
    let (_, rest) ← takePair? 0 60 rest
    takeSecondFraction? rest
  | rest => return rest

def takeOffset? : List Char → Option (List Char)
  | [] => some []
  | c :: rest =>
    if c = 'Z' || c = 'z' then some rest
    else if c = '+' || c = '-' then do
      let (_, rest) ← takePair? 0 23 rest
      let rest ← takeChar? ':' rest
      let (_, rest) ← takePair? 0 59 rest
      return rest
    else some (c :: rest)

def isDateTime (cs : List Char) : Bool :=
  match takeDate? cs with
  | some [] => true
  | some (c :: rest) =>
    (c = 'T' || c = 't' || c = ' ') && ((takeTime? rest).bind takeOffset?) == some []
  | none => takeTime? cs == some []

def unquoted? (cs : List Char) : Option Toml :=
  match cs with
  | ['t', 'r', 'u', 'e'] => some (boolean true)
  | ['f', 'a', 'l', 's', 'e'] => some (boolean false)
  | '0' :: 'x' :: digits => (basedValue? 16 digits).bind fun n => boundedInteger? n
  | '0' :: 'o' :: digits => (basedValue? 8 digits).bind fun n => boundedInteger? n
  | '0' :: 'b' :: digits => (basedValue? 2 digits).bind fun n => boundedInteger? n
  | cs =>
    if isDateTime cs then some (dateTime (String.ofList cs))
    else decimalInteger? cs <|> decimalFloat? cs <|> specialFloat? cs

/-- Reads an unquoted value.  A space may stand between a date and a time. -/
def takeUnquoted? (cs : List Char) : Option (Toml × List Char) :=
  let word := cs.takeWhile isUnquoted
  let rest := cs.drop word.length
  let joined := match rest with
    | ' ' :: more => word ++ ' ' :: more.takeWhile isUnquoted
    | _ => word
  if joined.length ≠ word.length && isDateTime joined then
    some (dateTime (String.ofList joined), cs.drop joined.length)
  else
    (unquoted? word).map (·, rest)

end Intake.Toml
