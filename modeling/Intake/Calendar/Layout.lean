import Intake.Calendar.Fields
import Intake.Numeral
import Intake.Power
import Intake.Text.Blank

/-!
# Layouts

A layout says how a date and time is written: directives, a percent sign and one to four
characters, stand for fields; blanks stand for any number of blanks, also none; any other character
stands for itself.  Reading with a layout fills in fields.
-/

namespace Intake.Calendar

inductive NumberField where
  | year
  | century
  | yearOfCentury
  | isoYear
  | isoYearOfCentury
  | quarter
  | month
  | day
  | weekFromSunday
  | weekFromMonday
  | isoWeek
  | weekdayFromSunday
  | weekdayFromMonday
  | ordinal
  | hour
  | hourOfHalf
  | minute
  | second
  | nano
  | timestamp

inductive Item where
  /-- The character itself. -/
  | literal (c : Char)
  /-- Any number of blanks. -/
  | blank
  /-- A number. -/
  | number (field : NumberField)
  /-- The name of a month, of three letters or, if `long`, also in full. -/
  | monthName (long : Bool)
  /-- The name of a day of the week, likewise. -/
  | weekdayName (long : Bool)
  /-- `am` or `pm`. -/
  | halfDay
  /-- A point and a fraction of a second, or nothing. -/
  | fraction
  /-- A fraction of a second with a fixed number of digits; with a point it may be missing. -/
  | fixedFraction (point : Bool) (digits : Nat)
  /-- The name of a zone, which is passed over. -/
  | zoneName
  /-- An offset; `lenient` allows a `Z` and leaving the minutes out. -/
  | offset (lenient : Bool)
  /-- A whole RFC 3339 timestamp, loosely read. -/
  | timestampText

/-- A way to write a date and time. -/
abbrev Layout := List Item

/-! ### Directives -/

def numberDirectives : List (Char × NumberField) :=
  [('C', .century), ('G', .isoYear), ('H', .hour), ('I', .hourOfHalf), ('M', .minute),
    ('S', .second), ('U', .weekFromSunday), ('V', .isoWeek), ('W', .weekFromMonday), ('Y', .year),
    ('d', .day), ('e', .day), ('f', .nano), ('g', .isoYearOfCentury), ('j', .ordinal), ('k', .hour),
    ('l', .hourOfHalf), ('m', .month), ('q', .quarter), ('s', .timestamp),
    ('u', .weekdayFromMonday), ('w', .weekdayFromSunday), ('y', .yearOfCentury)]

def separated (first : NumberField) (separator : Char) (rest : List NumberField) : Layout :=
  .number first :: rest.flatMap fun field => [.literal separator, .number field]

def otherDirectives : List (List Char × Layout) :=
  [(['A'], [.weekdayName true]), (['a'], [.weekdayName false]), (['B'], [.monthName true]),
    (['b'], [.monthName false]), (['h'], [.monthName false]), (['P'], [.halfDay]),
    (['p'], [.halfDay]),
    (['Z'], [.zoneName]), (['n'], [.blank]), (['t'], [.blank]), (['%'], [.literal '%']),
    (['+'], [.timestampText]), (['z'], [.offset false]), ([':', 'z'], [.offset false]),
    ([':', ':', 'z'], [.offset false]), ([':', ':', ':', 'z'], [.offset false]),
    (['#', 'z'], [.offset true]), (['.', 'f'], [.fraction]),
    (['.', '3', 'f'], [.fixedFraction true 3]), (['.', '6', 'f'], [.fixedFraction true 6]),
    (['.', '9', 'f'], [.fixedFraction true 9]), (['3', 'f'], [.fixedFraction false 3]),
    (['6', 'f'], [.fixedFraction false 6]), (['9', 'f'], [.fixedFraction false 9]),
    (['D'], separated .month '/' [.day, .yearOfCentury]),
    (['x'], separated .month '/' [.day, .yearOfCentury]),
    (['F'], separated .year '-' [.month, .day]), (['R'], separated .hour ':' [.minute]),
    (['T'], separated .hour ':' [.minute, .second]),
    (['X'], separated .hour ':' [.minute, .second]),
    (['r'], separated .hourOfHalf ':' [.minute, .second] ++ [.blank, .halfDay]),
    (['v'], [.number .day, .literal '-', .monthName false, .literal '-', .number .year]),
    (['c'], [.weekdayName false, .blank, .monthName false, .blank, .number .day, .blank] ++
      separated .hour ':' [.minute, .second] ++ [.blank, .number .year])]

/-- All directives without their percent sign.  In front of a number `-`, `0` and `_` may say how it
is padded, which makes no difference for reading. -/
def directives : List (List Char × Layout) :=
  otherDirectives ++ numberDirectives.flatMap fun (c, field) =>
    [[c], ['-', c], ['0', c], ['_', c]].map fun name => (name, [.number field])

/-- Whether more characters can make a directive of these. -/
def opensDirective (cs : List Char) : Bool :=
  directives.any fun (name, _) => cs.isPrefixOf name && cs.length < name.length

/-- Reads a layout; `pending` holds the characters of a directive that is not complete yet. -/
def layoutFrom? : (pending : Option (List Char)) → List Char → Option Layout
  | none, [] => some []
  | some _, [] => none
  | none, c :: rest =>
    if c = '%' then layoutFrom? (some []) rest
    else
      let item := if Text.isBlank c then Item.blank else .literal c
      (layoutFrom? none rest).map (item :: ·)
  | some pending, c :: rest =>
    let name := pending ++ [c]
    match directives.lookup name with
    | some items => (layoutFrom? none rest).map (items ++ ·)
    | none => if opensDirective name then layoutFrom? (some name) rest else none

/-- The layout that a text describes; an unknown directive makes none. -/
def Layout.ofString? (s : String) : Option Layout :=
  layoutFrom? none s.toList

/-! ### Setting fields -/

def within? (least greatest value : Int) : Option Int :=
  if least ≤ value ∧ value ≤ greatest then some value else none

namespace Fields

def setHour? (fields : Fields) (hour : Int) : Option Fields := do
  let halfDay ← agree? fields.halfDay (hour / 12)
  let hourOfHalf ← agree? fields.hourOfHalf (hour % 12)
  return { fields with halfDay, hourOfHalf }

def setWeekday? (fields : Fields) (weekday : Int) : Option Fields := do
  return { fields with weekday := ← agree? fields.weekday weekday }

def setMonth? (fields : Fields) (month : Int) : Option Fields := do
  return { fields with month := ← agree? fields.month (← within? 1 12 month) }

def setNano? (fields : Fields) (nano : Int) : Option Fields := do
  return { fields with nano := ← agree? fields.nano (← within? 0 999999999 nano) }

def setOffset? (fields : Fields) (offset : Int) : Option Fields := do
  return { fields with offset := ← agree? fields.offset offset }

/-- Sets a field that is written as a number, within its bounds. -/
def set? (fields : Fields) (field : NumberField) (value : Int) : Option Fields := do
  match field with
  | .year =>
    return { fields with
      year := ← agree? fields.year (← within? (-0x80000000) 0x7fffffff value) }
  | .century =>
    return { fields with century := ← agree? fields.century (← within? 0 0x7fffffff value) }
  | .yearOfCentury =>
    return { fields with yearOfCentury := ← agree? fields.yearOfCentury (← within? 0 99 value) }
  | .isoYear =>
    return { fields with
      isoYear := ← agree? fields.isoYear (← within? (-0x80000000) 0x7fffffff value) }
  | .isoYearOfCentury =>
    return { fields with
      isoYearOfCentury := ← agree? fields.isoYearOfCentury (← within? 0 99 value) }
  | .quarter => return { fields with quarter := ← agree? fields.quarter (← within? 1 4 value) }
  | .month => fields.setMonth? value
  | .day => return { fields with day := ← agree? fields.day (← within? 1 31 value) }
  | .weekFromSunday =>
    return { fields with weekFromSunday := ← agree? fields.weekFromSunday (← within? 0 53 value) }
  | .weekFromMonday =>
    return { fields with weekFromMonday := ← agree? fields.weekFromMonday (← within? 0 53 value) }
  | .isoWeek => return { fields with isoWeek := ← agree? fields.isoWeek (← within? 1 53 value) }
  | .weekdayFromSunday => fields.setWeekday? (((← within? 0 6 value) + 6) % 7)
  | .weekdayFromMonday => fields.setWeekday? ((← within? 1 7 value) - 1)
  | .ordinal => return { fields with ordinal := ← agree? fields.ordinal (← within? 1 366 value) }
  | .hour => fields.setHour? (← within? 0 23 value)
  | .hourOfHalf =>
    return { fields with hourOfHalf := ← agree? fields.hourOfHalf ((← within? 1 12 value) % 12) }
  | .minute => return { fields with minute := ← agree? fields.minute (← within? 0 59 value) }
  | .second => return { fields with second := ← agree? fields.second (← within? 0 60 value) }
  | .nano => fields.setNano? value
  | .timestamp =>
    return { fields with
      timestamp := ←
        agree? fields.timestamp (← within? (-0x8000000000000000) 0x7fffffffffffffff value) }

end Fields

/-! ### Reading -/

/-- The most digits that a number without a sign is read with; `none` is no limit. -/
def NumberField.width : NumberField → Option Nat
  | .year | .isoYear => some 4
  | .quarter | .weekdayFromSunday | .weekdayFromMonday => some 1
  | .ordinal => some 3
  | .nano => some 9
  | .timestamp => none
  | _ => some 2

def NumberField.signed : NumberField → Bool
  | .year | .isoYear => true
  | _ => false

/-- Reads at least one digit and at most as many as the limit says. -/
def takeDigits? (limit : Option Nat) (cs : List Char) : Option (List Char × List Char) :=
  let run := cs.takeWhile Char.isDigit
  let digits := match limit with
    | some n => run.take n
    | none => run
  if digits.isEmpty then none else some (digits, cs.drop digits.length)

def takeExactly? (count : Nat) (cs : List Char) : Option (List Char × List Char) :=
  (takeDigits? (some count) cs).filter fun (digits, _) => digits.length == count

/-- Reads a number, with a sign and then any number of digits where the field has one. -/
def takeNumber? (field : NumberField) (cs : List Char) : Option (Int × List Char) :=
  match field.signed, cs with
  | true, '-' :: rest =>
    (takeDigits? none rest).map fun (digits, rest) => (-digitsValue digits, rest)
  | true, '+' :: rest =>
    (takeDigits? none rest).map fun (digits, rest) => (digitsValue digits, rest)
  | _, cs => (takeDigits? field.width cs).map fun (digits, rest) => (digitsValue digits, rest)

/-- Reads the digits of a fraction of a second as nanoseconds; digits after the ninth are passed
over. -/
def takeNanos? (cs : List Char) : Option (Int × List Char) :=
  (takeDigits? (some 9) cs).map fun (digits, rest) =>
    (digitsValue digits * tenTo (9 - digits.length), rest.dropWhile Char.isDigit)

def monthNames : List String :=
  ["january", "february", "march", "april", "may", "june", "july", "august", "september", "october",
    "november", "december"]

def weekdayNames : List String :=
  ["monday", "tuesday", "wednesday", "thursday", "friday", "saturday", "sunday"]

/-- Whether a text starts with a word in lower case, in any case of its letters. -/
def startsWithWord (word cs : List Char) : Bool :=
  word.isPrefixOf (cs.map Char.toLower)

/-- Reads the first three letters of a name, and the rest of it if `long` and it is there; the
answer is the number of the name. -/
def takeName? (long : Bool) (names : List String) (cs : List Char) : Option (Nat × List Char) :=
  (names.findIdx? fun name => startsWithWord (name.toList.take 3) cs).map fun index =>
    let name := (names[index]?.getD "").toList
    let length := if long && startsWithWord name cs then name.length else 3
    (index, cs.drop length)

structure OffsetStyle where
  zulu : Bool
  minutesOptional : Bool
  strictColon : Bool

/-- Reads what stands between the hours and the minutes of an offset. -/
def takeColon? (strict : Bool) (cs : List Char) : Option (List Char) :=
  if strict then
    match cs with
    | ':' :: rest => some rest
    | _ => none
  else
    some (cs.dropWhile fun c => c = ':' || Text.isBlank c)

def takeOffsetMinutes? (optional : Bool) : List Char → Option (Int × List Char)
  | [] => if optional then some (0, []) else none
  | a :: b :: rest =>
    if a.isDigit && a < '6' && b.isDigit then some (digitsValue [a, b], rest) else none
  | _ => none

/-- Reads a sign; also the minus sign of typography is one. -/
def takeOffsetSign? : List Char → Option (Bool × List Char)
  | '+' :: rest => some (false, rest)
  | '-' :: rest => some (true, rest)
  | '\u2212' :: rest => some (true, rest)
  | _ => none

def takeSignedOffset? (style : OffsetStyle) (cs : List Char) : Option (Int × List Char) := do
  let (negative, cs) ← takeOffsetSign? cs
  let (hours, cs) ← takeExactly? 2 cs
  let cs ← takeColon? style.strictColon cs
  let (minutes, cs) ← takeOffsetMinutes? style.minutesOptional cs
  let seconds := digitsValue hours * 3600 + minutes * 60
  return (if negative then -seconds else seconds, cs)

def takeOffset? (style : OffsetStyle) : List Char → Option (Int × List Char)
  | c :: rest =>
    if style.zulu && (c = 'Z' || c = 'z') then some (0, rest)
    else takeSignedOffset? style (c :: rest)
  | [] => none

/-- Reads a number field, blanks in front passed over. -/
def readNumber? (field : NumberField) (fields : Fields) (cs : List Char) :
    Option (Fields × List Char) := do
  let (value, rest) ← takeNumber? field (Text.trimStart cs)
  return (← fields.set? field value, rest)

def readLiteral? (c : Char) (fields : Fields) : List Char → Option (Fields × List Char)
  | d :: rest => if d = c then some (fields, rest) else none
  | [] => none

/-- Reads a fraction of a second where a point stands. -/
def readFraction? (digits : Option Nat) (fields : Fields) : List Char → Option (Fields × List Char)
  | '.' :: rest => do
    let (nano, rest) ← match digits with
      | none => takeNanos? rest
      | some n => (takeExactly? n rest).map fun (ds, rest) => (digitsValue ds * tenTo (9 - n), rest)
    return (← fields.setNano? nano, rest)
  | cs => some (fields, cs)

def readOffset? (style : OffsetStyle) (fields : Fields) (cs : List Char) :
    Option (Fields × List Char) := do
  let (offset, rest) ← takeOffset? style cs
  return (← fields.setOffset? offset, rest)

/-- Reads numbers with a character between them, any blanks before the character passed over. -/
def readSeparated? (separator : Char) :
    List NumberField → Fields → List Char → Option (Fields × List Char)
  | [], fields, cs => some (fields, cs)
  | field :: rest, fields, cs => do
    let (fields, cs) ← readLiteral? separator fields (Text.trimStart cs)
    let (fields, cs) ← readNumber? field fields cs
    readSeparated? separator rest fields cs

/-- Reads a whole timestamp: a date, a `T` or a space, a time and an offset, `Z` or `UTC`. -/
def readTimestampText? (fields : Fields) (cs : List Char) : Option (Fields × List Char) := do
  let (fields, cs) ← readNumber? .year fields cs
  let (fields, cs) ← readSeparated? '-' [.month, .day] fields cs
  let cs ← match cs with
    | c :: rest => if c = 'T' || c = 't' || c = ' ' then some rest else none
    | [] => none
  let (fields, cs) ← readNumber? .hour fields cs
  let (fields, cs) ← readSeparated? ':' [.minute, .second] fields cs
  let (fields, cs) ← readFraction? none fields cs
  let cs := Text.trimStart cs
  if startsWithWord ['u', 't', 'c'] cs then return (← fields.setOffset? 0, cs.drop 3)
  else readOffset? ⟨true, false, false⟩ fields cs

def Item.read? (item : Item) (fields : Fields) (cs : List Char) : Option (Fields × List Char) :=
  match item with
  | .literal c => readLiteral? c fields cs
  | .blank => some (fields, Text.trimStart cs)
  | .number field => readNumber? field fields cs
  | .monthName long => do
    let (index, rest) ← takeName? long monthNames cs
    return (← fields.setMonth? (index + 1), rest)
  | .weekdayName long => do
    let (index, rest) ← takeName? long weekdayNames cs
    return (← fields.setWeekday? index, rest)
  | .halfDay => do
    let half ←
      if startsWithWord ['a', 'm'] cs then some 0
      else if startsWithWord ['p', 'm'] cs then some 1
      else none
    return ({ fields with halfDay := ← agree? fields.halfDay half }, cs.drop 2)
  | .fraction => readFraction? none fields cs
  | .fixedFraction true digits => readFraction? (some digits) fields cs
  | .fixedFraction false digits => do
    let (ds, rest) ← takeExactly? digits cs
    return (← fields.setNano? (digitsValue ds * tenTo (9 - digits)), rest)
  | .zoneName => some (fields, cs.dropWhile fun c => !Text.isBlank c)
  | .offset lenient => readOffset? ⟨lenient, lenient, false⟩ fields (Text.trimStart cs)
  | .timestampText => readTimestampText? fields cs

/-- Reads a text with a layout, to its end. -/
def Layout.read? : Layout → Fields → List Char → Option Fields
  | [], fields, cs => if cs.isEmpty then some fields else none
  | item :: rest, fields, cs => do
    let (fields, cs) ← item.read? fields cs
    Layout.read? rest fields cs

end Intake.Calendar
