import Intake.Calendar.Moment
import Intake.Decimal.Basic
import Intake.Entries

/-!
# Values

What goes into a filter and what comes out of one.  A value is dynamically typed: scalars, arrays,
hashes with text keys, and objects of the host program, which are known by their class, by the
methods they respond to and by their identity.
-/

namespace Intake

/-- An object of the host program.  The identity tells apart objects that look the same. -/
structure Object (α : Type) where
  identity : Nat
  className : String
  ancestors : List String := []
  methods : List String := []
  attributes : List (String × α) := []

namespace Object

variable {α : Type}

/-- Whether a class is that of the object or one of its ancestors. -/
def isA (object : Object α) (name : String) : Bool :=
  object.className == name || object.ancestors.contains name

def respondsTo (object : Object α) (method : String) : Bool :=
  object.methods.contains method

end Object

/-- A value.  The entries of a hash are in ascending order of the keys.  A time is a moment shown in
the active zone, a date-time one shown as it was given. -/
inductive Value where
  | nil
  | boolean (b : Bool)
  | integer (n : Int64)
  | float (x : Float)
  | decimal (d : Decimal)
  | string (s : String)
  | symbol (name : String)
  | date (date : Calendar.Date)
  | dateTime (moment : Calendar.Moment)
  | time (moment : Calendar.Moment)
  | bytes (bytes : List UInt8)
  | array (items : List Value)
  | hash (entries : List (String × Value))
  | object (object : Object Value)

instance : Inhabited Value := ⟨.nil⟩

namespace Value

def isNil : Value → Bool
  | nil => true
  | _ => false

def typeName : Value → String
  | nil => "nil"
  | boolean _ => "boolean"
  | integer _ => "integer"
  | float _ => "float"
  | decimal _ => "decimal"
  | string _ => "string"
  | symbol _ => "symbol"
  | date _ => "date"
  | dateTime _ => "date_time"
  | time _ => "time"
  | bytes _ => "bytes"
  | array _ => "array"
  | hash _ => "hash"
  | object _ => "object"

def asBoolean? : Value → Option Bool
  | boolean b => some b
  | _ => none

def asInteger? : Value → Option Int64
  | integer n => some n
  | _ => none

def asFloat? : Value → Option Float
  | float x => some x
  | _ => none

/-- The text of a string or a symbol. -/
def asText? : Value → Option String
  | string s => some s
  | symbol s => some s
  | _ => none

def asArray? : Value → Option (List Value)
  | array items => some items
  | _ => none

def asHash? : Value → Option (Entries Value)
  | hash entries => some entries
  | _ => none

/-- The value under a key of a hash. -/
def get? (value : Value) (key : String) : Option Value :=
  value.asHash?.bind (·.get? key)

def isInstanceOf (value : Value) (className : String) : Bool :=
  match value with
  | object o => o.isA className
  | _ => false

end Value

/-- The value that a key has among entries, nil where the key is absent. -/
def Entries.value (entries : Entries Value) (key : String) : Value :=
  (entries.get? key).getD .nil

end Intake
