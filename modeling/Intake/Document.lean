import Intake.Value.Text

/-!
# JSON documents

A document is what JSON can say.  Every document gives a value; a value gives a document in which
what JSON has no form for is told by its text.
-/

namespace Intake

/-- A JSON document.  Numbers are kept apart by their spelling: integers, and reals with a fraction
or an exponent.  The members of a record are in ascending order of their keys. -/
inductive Document where
  | null
  | boolean (b : Bool)
  | integer (n : Int)
  | real (x : Float)
  | text (s : String)
  | list (items : List Document)
  | record (members : List (String × Document))

def int64? (n : Int) : Option Int64 :=
  if -0x8000000000000000 ≤ n ∧ n < 0x8000000000000000 then some (Int64.ofInt n) else none

/-- An integer as a value: an integer if it has 64 bits, the nearest float otherwise. -/
def Value.ofInt (n : Int) : Value :=
  match int64? n with
  | some n => .integer n
  | none => .float (Binary64.ofInt n)

namespace Document

/-- The document that a number spells: an integer, or the double nearest to a number with a fraction
or an exponent.  A zero with a minus is no integer. -/
def ofNumeral (numeral : Numeral) : Document :=
  let n := numeral.coefficient
  if numeral.exponent.isSome || !numeral.fraction.isEmpty then
    .real (Binary64.ofNumeral numeral)
  else if !numeral.negative then .integer n
  else if n = 0 then .real (Binary64.nearest true 0 1)
  else .integer (-n)

/-! ### Values -/

mutual

def toValue : Document → Value
  | null => .nil
  | boolean b => .boolean b
  | integer n => .ofInt n
  | real x => .float x
  | text s => .string s
  | list items => .array (itemValues items)
  | record members => .hash (memberValues members)

def itemValues : List Document → List Value
  | [] => []
  | item :: rest => item.toValue :: itemValues rest

def memberValues : List (String × Document) → List (String × Value)
  | [] => []
  | (key, member) :: rest => (key, member.toValue) :: memberValues rest

end

/-- The inputs that a document holds; one that is no record holds none. -/
def toInputs (document : Document) : Entries Value :=
  match document.toValue with
  | .hash entries => entries
  | _ => []

end Document

namespace Value

mutual

def toDocument : Value → Document
  | nil => .null
  | boolean b => .boolean b
  | integer n => .integer n.toInt
  | float x => if Binary64.isFinite x then .real x else .null
  | decimal d => .text d.text
  | string s => .text s
  | symbol s => .text s
  | date day => .text day.text
  | dateTime moment => .text moment.text
  | time moment => .text moment.text
  | bytes data => .list (data.map fun b => .integer b.toNat)
  | array items => .list (itemDocuments items)
  | hash entries => .record (memberDocuments entries)
  | object o => .text ("#<" ++ o.className ++ ">")

def itemDocuments : List Value → List Document
  | [] => []
  | item :: rest => item.toDocument :: itemDocuments rest

def memberDocuments : List (String × Value) → List (String × Document)
  | [] => []
  | (key, value) :: rest => (key, value.toDocument) :: memberDocuments rest

end

end Value

end Intake
