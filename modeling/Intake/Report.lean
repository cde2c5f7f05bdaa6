import Intake.CastError
import Intake.Filter

/-!
# Reports

A report is the list of what is wrong with inputs, in order.  Each issue has a path, a kind, data
for the wording of a message, and the name of the filter that it comes from; issues that the host
adds come from no filter.
-/

namespace Intake

/-- What is wrong at a path. -/
inductive IssueKind where
  | missing
  | invalidType
  /-- A kind of the host's own. -/
  | custom (name : String)
  deriving DecidableEq

namespace IssueKind

def text : IssueKind → String
  | missing => "missing"
  | invalidType => "invalid_type"
  | custom name => name

def ofText (s : String) : IssueKind :=
  if s = "missing" then missing else if s = "invalid_type" then invalidType else custom s

def ofCast : CastError → IssueKind
  | .missing _ => missing
  | .invalid _ _ => invalidType
  | .nested _ _ _ => invalidType

end IssueKind

/-- Something that is wrong with inputs. -/
structure Issue where
  path : Path
  kind : IssueKind
  options : Entries String := []
  filter : Option String := none
  deriving DecidableEq

namespace Issue

/-- An issue of a filter at its own name; an invalid type tells the type that was asked for. -/
def ofKind (head : Head) (kind : IssueKind) : Issue where
  path := ⟨head.name, []⟩
  kind
  options := if kind = .invalidType then [("type", head.slug)] else []
  filter := some head.name

/-- An issue that the host adds. -/
def custom (path kind : String) (options : Entries String) : Issue where
  path := ⟨path, []⟩
  kind := .ofText kind
  options

def underIndex (issue : Issue) (parent : String) (i : Nat) : Issue :=
  { issue with path := issue.path.underIndex parent i }

def underKey (issue : Issue) (parent : String) : Issue :=
  { issue with path := issue.path.underKey parent }

def text (issue : Issue) : String :=
  let line := issue.path.text ++ ": " ++ issue.kind.text
  match issue.options.get? "type" with
  | some type => line ++ " (" ++ type ++ ")"
  | none => line

end Issue

/-- What is wrong with inputs, in order. -/
abbrev Report := List Issue

namespace Report

def atPath (report : Report) (path : String) : Report :=
  report.filter fun issue => issue.path.text == path

/-- The paths and the kinds, in order. -/
def summary (report : Report) : List (String × String) :=
  report.map fun issue => (issue.path.text, issue.kind.text)

def text (report : Report) : String :=
  String.join (report.map fun issue => issue.text ++ "\n")

end Report

end Intake
