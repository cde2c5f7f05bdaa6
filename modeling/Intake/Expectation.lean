import Intake.Filter.Cast
import Intake.Value.Same

/-!
# Expectations

What a test expects of a report or of a filter, and what it says when it is disappointed.
-/

namespace Intake

/-- The text of a summary: quoted pairs in brackets. -/
def summaryText (summary : List (String × String)) : String :=
  "[" ++ Value.commaSeparated (summary.map fun (path, kind) =>
    "(" ++ Text.quote path ++ ", " ++ Text.quote kind ++ ")") ++ "]"

namespace Report

def expectEmpty (report : Report) : Except String Unit :=
  if report.isEmpty then .ok ()
  else
    .error
      ("Expected no errors, got " ++ toString report.length ++ ": " ++ summaryText report.summary)

/-- Whether exactly these kinds are reported at these paths, in this order. -/
def summaryIs (report : Report) (expected : List (String × String)) : Bool :=
  report.summary == expected

def expectAt (report : Report) (path kind : String) : Except String Unit :=
  if (report.atPath path).any fun issue => issue.kind.text == kind then .ok ()
  else
    .error ("Expected " ++ kind ++ " error at '" ++ path ++ "', got " ++ summaryText report.summary)

end Report

namespace Filter

def castsTo (filter : Filter) (drawn : Nat) (value expected : Value) : Bool :=
  match filter.cast {} drawn value with
  | .ok actual => actual.same expected
  | .error _ => false

def rejects (filter : Filter) (drawn : Nat) (value : Value) : Bool :=
  match filter.cast {} drawn value with
  | .ok _ => false
  | .error _ => true

end Filter

end Intake
