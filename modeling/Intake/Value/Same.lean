import Intake.Value

/-!
# Equality of values

Two values are the same when they have the same type and the same content.  Decimals are compared by
value, moments as points in time, objects by identity; floats are compared as numbers, so that a NaN
is not the same as itself.
-/

namespace Intake.Value

mutual

/-- Whether two values are the same. -/
def same : Value → Value → Bool
  | nil, nil => true
  | boolean a, boolean b => a == b
  | integer a, integer b => a == b
  | float a, float b => a == b
  | decimal a, decimal b => a.same b
  | string a, string b => a == b
  | symbol a, symbol b => a == b
  | date a, date b => a == b
  | dateTime a, dateTime b => a.same b
  | time a, time b => a.same b
  | bytes a, bytes b => a == b
  | array a, array b => sameItems a b
  | hash a, hash b => sameEntries a b
  | object a, object b => a.identity == b.identity
  | _, _ => false

def sameItems : List Value → List Value → Bool
  | [], [] => true
  | a :: as, b :: bs => a.same b && sameItems as bs
  | _, _ => false

def sameEntries : List (String × Value) → List (String × Value) → Bool
  | [], [] => true
  | (j, a) :: as, (k, b) :: bs => j == k && a.same b && sameEntries as bs
  | _, _ => false

end

end Intake.Value
