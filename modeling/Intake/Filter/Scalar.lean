import Intake.Binary64
import Intake.Calendar.Parsed
import Intake.Context
import Intake.Decimal.Binary
import Intake.Decimal.Reading
import Intake.Document
import Intake.Options

/-!
# Scalar filters

A scalar filter reads a raw value as a value of its kind, or not at all.  What is to become of a
value that cannot be read, nil among them, is the same for every kind and is not decided here.
-/

namespace Intake

/-- What an interface filter asks of an object. -/
inductive Target where
  /-- A class or a module in its ancestry. -/
  | ancestor (name : String)
  /-- Methods that it responds to. -/
  | methods (names : List String)

def Target.accepts (target : Target) (object : Object Value) : Bool :=
  match target with
  | ancestor name => object.isA name
  | methods names => names.all object.respondsTo

inductive Scalar where
  | boolean
  | integer
  | float
  | decimal (digits : Nat)
  | string (strip : Bool)
  | symbol
  | date (layout : Option String)
  | dateTime (layout : Option String)
  | time (layout : Option String)
  | file
  | object (className : String) (convert : Option Conversion)
  | record (className : String) (find : Conversion)
  | interface (target : Target)
  /-- A kind of the host. -/
  | host (read : Context → Value → Option Value)

namespace Scalar

/-! ### Truth values and numbers -/

def booleanText? (s : String) : Option Bool :=
  match Text.lowerAscii (Text.trim s) with
  | "1" => some true
  | "true" => some true
  | "0" => some false
  | "false" => some false
  | _ => none

def readBoolean? : Value → Option Bool
  | .boolean b => some b
  | .string s => booleanText? s
  | _ => none

/-- Reads an integer; floats and decimals lose their fraction. -/
def readInteger? : Value → Option Int64
  | .integer n => some n
  | .float x => (Binary64.truncate? x).bind int64?
  | .decimal d => int64? d.truncate
  | .string s => (Numeral.integer? (Text.trimChars s.toList)).bind int64?
  | _ => none

/-- The numeral that a text is, blanks around it left aside. -/
def numeralText? (s : String) : Option Numeral :=
  Numeral.read? (Text.trimChars s.toList)

/-- Reads a float; a text has to denote a finite one. -/
def readFloat? : Value → Option Float
  | .float x => some x
  | .integer n => some (Binary64.ofInt n.toInt)
  | .decimal d => some d.toFloat
  | .string s => ((numeralText? s).map Binary64.ofNumeral).filter Binary64.isFinite
  | _ => none

/-- Reads a decimal; a float is rounded to a number of significant digits. -/
def readDecimal? (digits : Nat) : Value → Option Decimal
  | .decimal d => some d
  | .integer n => some (.ofInt64 n)
  | .float x => Decimal.ofFloat? digits x
  | .string s => (numeralText? s).bind Decimal.ofNumeral?
  | _ => none

/-! ### Dates and times -/

/-- The integer under a key of a date picker's hash. -/
def part? (entries : Entries Value) (key : String) : Option Int :=
  match entries.get? key with
  | some (.integer n) => some n.toInt
  | some (.string s) =>
    (Numeral.plainInteger? (Text.trimChars s.toList)).bind fun n => (int64? n).map Int64.toInt
  | _ => none

/-- The part of the time under a key, zero where the key is absent or nil. -/
def timePart? (entries : Entries Value) (key : String) : Option Int :=
  match entries.get? key with
  | none => some 0
  | some .nil => some 0
  | some _ => part? entries key

def natural? (n : Int) : Option Nat :=
  if 0 ≤ n then some n.toNat else none

/-- The reading of a date picker's hash: year, month and day under the keys 1 to 3, hour, minute and
second, if any, under the keys 4 to 6. -/
def grouped? (entries : Entries Value) : Option Calendar.Reading := do
  let year ← part? entries "1"
  let month ← natural? (← part? entries "2")
  let day ← natural? (← part? entries "3")
  let date ← Calendar.Date.ofCivil? year month day
  let hour ← natural? (← timePart? entries "4")
  let minute ← natural? (← timePart? entries "5")
  let second ← natural? (← timePart? entries "6")
  return ⟨date, ← Calendar.Clock.ofParts? hour minute second 0⟩

/-- What a string or a date picker's hash says about date and time.  A hash is one of a date picker
when it has the key 1. -/
def calendar? (layout : Option String) : Value → Option Calendar.Parsed
  | .string s => Calendar.Parsed.read? layout s
  | .hash entries =>
    if Entries.contains entries "1" then (grouped? entries).map fun reading => ⟨reading, none⟩
    else none
  | _ => none

def readDate? (layout : Option String) (value : Value) : Option Calendar.Date :=
  match value with
  | .date day => some day
  | value => (calendar? layout value).map (·.reading.date)

/-- Reads a date and time; what has no offset is in UTC. -/
def readDateTime? (layout : Option String) (value : Value) : Option Calendar.Moment :=
  match value with
  | .dateTime moment => some moment
  | value => (calendar? layout value).bind (·.inZone? .utc)

/-- The nanoseconds into the second that a float number of seconds goes to, less than a second
whatever the rounding does. -/
def nanosOfFloat (seconds : Float) (whole : Int) : Nat :=
  let fraction := seconds - Binary64.ofInt whole
  min ((Binary64.round? (fraction * Binary64.ofInt 1000000000)).getD 0).toNat 999999999

def epochFloat? (seconds : Float) : Option Calendar.Moment :=
  (Binary64.floor? seconds).bind fun whole =>
    Calendar.Moment.ofEpoch? whole (nanosOfFloat seconds whole)

/-- Reads a moment; numbers are seconds after the epoch, and what has no offset is in the zone. -/
def readTime? (layout : Option String) (zone : Calendar.Offset) (value : Value) :
    Option Calendar.Moment :=
  match value with
  | .time moment => some moment
  | .dateTime moment => some moment
  | .integer n => Calendar.Moment.ofEpoch? n.toInt 0
  | .float x => epochFloat? x
  | value => (calendar? layout value).bind (·.inZone? zone)

/-! ### Objects -/

/-- Reads an instance of a class; any other value but nil is converted, where there is a function
for it, and has to give an instance. -/
def readObject? (className : String) (convert : Option Conversion) (value : Value) : Option Value :=
  if value.isNil then none
  else if value.isInstanceOf className then some value
  else
    match convert with
    | none => none
    | some f =>
      match f value with
      | .ok converted => if converted.isInstanceOf className then some converted else none
      | .error _ => none

/-- Reads an instance of a class; any other value but nil and blank texts is looked up. -/
def readRecord? (className : String) (find : Conversion) (value : Value) : Option Value :=
  if value.isInstanceOf className then some value
  else
    match value with
    | .nil => none
    | .string s => if Text.isBlankText s then none else found? (find value)
    | _ => found? (find value)
where
  /-- What a finder finds. -/
  found? : Except String Value → Option Value
    | .ok found => if found.isNil then none else some found
    | .error _ => none

def read (scalar : Scalar) (ctx : Context) (value : Value) : Option Value :=
  match scalar with
  | boolean => (readBoolean? value).map .boolean
  | integer => (readInteger? value).map .integer
  | float => (readFloat? value).map .float
  | decimal digits => (readDecimal? digits value).map .decimal
  | string strip =>
    match value with
    | .string s => some (.string (if strip then Text.trim s else s))
    | _ => none
  | symbol =>
    match value with
    | .symbol name => some (.symbol name)
    | .string s => some (.symbol s)
    | _ => none
  | date layout => (readDate? layout value).map .date
  | dateTime layout => (readDateTime? layout value).map .dateTime
  | time layout =>
    (readTime? layout ctx.effectiveZone value).map fun moment =>
      .time (moment.shownIn ctx.effectiveZone)
  | file =>
    match value with
    | .bytes data => some (.bytes data)
    | .object o => if o.respondsTo "read" then some value else none
    | _ => none
  | object className convert => readObject? className convert value
  | record className find => readRecord? className find value
  | interface target =>
    match value with
    | .object o => if target.accepts o then some value else none
    | _ => none
  | host read => read ctx value

end Scalar

end Intake
