import Intake.Calendar.Layout

/-!
# Reading dates and times

A text gives a reading and, where it is written, the offset that the reading is made at.  With a
layout the text has to match it.  Without one it is tried as an RFC 3339 timestamp and then with
the layouts in common use, those with an offset first, dates alone last; a date alone is its
midnight.
-/

namespace Intake.Calendar

/-- What was read of a text: a reading, and its offset where it has one. -/
structure Parsed where
  reading : Reading
  offset : Option Offset
  deriving DecidableEq

namespace Parsed

/-- The moment of a reading; one without an offset is made in the zone. -/
def inZone? (parsed : Parsed) (zone : Offset) : Option Moment :=
  Moment.ofLocal? parsed.reading (parsed.offset.getD zone)

def ofDate (date : Date) : Parsed where
  reading := ⟨date, .midnight⟩
  offset := none

end Parsed

namespace Fields

/-- A reading with its offset.  A timestamp without an offset is in UTC. -/
def zoned? (fields : Fields) : Option Parsed := do
  let seconds ← match fields.offset, fields.timestamp with
    | some offset, _ => some offset
    | none, some _ => some 0
    | none, none => none
  let reading ← fields.reading? seconds
  let offset ← Offset.ofSeconds? seconds
  let _ ← Moment.ofLocal? reading offset
  return ⟨reading, some offset⟩

def naive? (fields : Fields) : Option Parsed :=
  (fields.reading? 0).map fun reading => ⟨reading, none⟩

def dateOnly? (fields : Fields) : Option Parsed :=
  fields.date?.map Parsed.ofDate

end Fields

def rfc3339Offset : OffsetStyle := ⟨true, false, true⟩

def readExact? (field : NumberField) (count : Nat) (fields : Fields) (cs : List Char) :
    Option (Fields × List Char) := do
  let (digits, rest) ← takeExactly? count cs
  return (← fields.set? field (digitsValue digits), rest)

def rfc3339Fields? (cs : List Char) : Option Fields := do
  let (fields, cs) ← readExact? .year 4 {} cs
  let (fields, cs) ← readLiteral? '-' fields cs
  let (fields, cs) ← readExact? .month 2 fields cs
  let (fields, cs) ← readLiteral? '-' fields cs
  let (fields, cs) ← readExact? .day 2 fields cs
  let cs ← match cs with
    | c :: rest => if c = 'T' || c = 't' || c = ' ' then some rest else none
    | [] => none
  let (fields, cs) ← readExact? .hour 2 fields cs
  let (fields, cs) ← readLiteral? ':' fields cs
  let (fields, cs) ← readExact? .minute 2 fields cs
  let (fields, cs) ← readLiteral? ':' fields cs
  let (fields, cs) ← readExact? .second 2 fields cs
  let (fields, cs) ← readFraction? none fields cs
  let (fields, cs) ← readOffset? rfc3339Offset fields cs
  if cs.isEmpty then some fields else none

/-- Reads a text with a layout in one of the three ways that fields make a result. -/
def readWith? (resolve : Fields → Option Parsed) (cs : List Char) (layout : String) :
    Option Parsed :=
  (Layout.ofString? layout).bind fun items => (Layout.read? items {} cs).bind resolve

def zonedLayouts : List String :=
  ["%Y-%m-%dT%H:%M:%S%.f%z", "%Y-%m-%d %H:%M:%S%.f%:z", "%Y-%m-%d %H:%M:%S%.f %z"]

def naiveLayouts : List String :=
  ["%Y-%m-%dT%H:%M:%S%.f", "%Y-%m-%d %H:%M:%S%.f", "%Y-%m-%dT%H:%M", "%Y-%m-%d %H:%M"]

def dateLayouts : List String :=
  ["%Y-%m-%d", "%Y/%m/%d", "%d %b %Y", "%d %B %Y", "%b %d, %Y", "%B %d, %Y"]

namespace Parsed

/-- Reads a text with a layout, blanks at its ends left aside. -/
def withLayout? (cs : List Char) (layout : String) : Option Parsed :=
  readWith? (fun fields => fields.zoned? <|> fields.naive? <|> fields.dateOnly?) cs layout

def common? (cs : List Char) : Option Parsed :=
  (rfc3339Fields? cs).bind Fields.zoned? <|>
    zonedLayouts.findSome? (readWith? Fields.zoned? cs) <|>
    naiveLayouts.findSome? (readWith? Fields.naive? cs) <|>
    dateLayouts.findSome? (readWith? Fields.dateOnly? cs)

def read? (layout : Option String) (s : String) : Option Parsed :=
  let cs := Text.trimChars s.toList
  match layout with
  | some layout => withLayout? cs layout
  | none => common? cs

end Parsed

/-- The moment of an RFC 3339 timestamp; the year may be signed. -/
def Moment.read? (s : String) : Option Moment :=
  let cs := s.toList
  let parsed :=
    (rfc3339Fields? cs).bind Fields.zoned? <|>
      readWith? Fields.zoned? cs "%Y-%m-%dT%H:%M:%S%.f%:z"
  parsed.bind (·.inZone? .utc)

/-- The date of a text `YYYY-MM-DD`; the year may be signed. -/
def Date.read? (s : String) : Option Date :=
  (readWith? Fields.dateOnly? s.toList "%Y-%m-%d").map (·.reading.date)

end Intake.Calendar
