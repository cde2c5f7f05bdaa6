import Intake.Report

/-!
# Verdicts

The verdict of a filter on a value is a tree in the shape of the filter: every node has what the
value was cast to, nil where it was rejected, and at most one error of its own.  A container of the
wrong type has an error of its own and no nodes below.

A verdict is flattened into issues.  In full, every error is told at its own path.  Otherwise an
array that does not report by index tells only the first error among its elements, as its own.
-/

namespace Intake

/-- The verdict of a filter on a value. -/
inductive Verdict where
  /-- A value that is cast as a whole. -/
  | leaf (head : Head) (result : Except CastError Value)
  /-- An array, element by element; `indexed` tells whether errors are reported by index. -/
  | array (head : Head) (elements : List Verdict) (indexed : Bool)
  /-- A hash, field by field, with the entries that come out of it. -/
  | hash (head : Head) (output : List (String × Value)) (fields : List (String × Verdict))

namespace Verdict

def head : Verdict → Head
  | leaf head _ => head
  | array head _ _ => head
  | hash head _ _ => head

mutual

/-- What a value was cast to; nil stands where it was rejected. -/
def value : Verdict → Value
  | leaf _ (.ok value) => value
  | leaf _ (.error _) => .nil
  | array _ elements _ => .array (values elements)
  | hash _ output _ => .hash output

def values : List Verdict → List Value
  | [] => []
  | verdict :: rest => verdict.value :: values rest

end

/-- The error of the node itself. -/
def error? : Verdict → Option CastError
  | leaf _ (.error error) => some error
  | _ => none

mutual

/-- The issues of a verdict, all of them if `full`. -/
def flatten (full : Bool) : Verdict → Report
  | leaf _ (.ok _) => []
  | leaf head (.error error) => [.ofKind head (.ofCast error)]
  | array head elements indexed =>
    match flattenElements full head.name 0 elements with
    | [] => []
    | first :: rest => if full || indexed then first :: rest else [.ofKind head first.kind]
  | hash head _ fields => flattenFields full head.name fields

/-- The issues of elements, from an index on. -/
def flattenElements (full : Bool) (parent : String) (i : Nat) : List Verdict → Report
  | [] => []
  | verdict :: rest =>
    (verdict.flatten full).map (·.underIndex parent i) ++ flattenElements full parent (i + 1) rest

def flattenFields (full : Bool) (parent : String) : List (String × Verdict) → Report
  | [] => []
  | (_, verdict) :: rest =>
    (verdict.flatten full).map (·.underKey parent) ++ flattenFields full parent rest

end

def issues (verdict : Verdict) : Report :=
  verdict.flatten false

def isValid (verdict : Verdict) : Bool :=
  (verdict.flatten true).isEmpty

/-- The result of a cast: the value, or the error of the node, or else where the first error below
it is, whatever the report would say. -/
def result (verdict : Verdict) : Except CastError Value :=
  match verdict.error?, verdict.flatten true with
  | some error, _ => .error error
  | none, [] => .ok verdict.value
  | none, first :: _ => .error (.nested verdict.head.name first.path verdict.value)

end Verdict

end Intake
