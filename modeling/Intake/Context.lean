import Intake.Calendar.Moment
import Intake.Text.Blank
import Intake.Text.Case

/-!
# Contexts

What a pass over inputs needs besides the filters: how arrays report the errors of their elements,
and the active zone.
-/

namespace Intake

/-- How an array reports errors of its elements. -/
inductive Policy where
  /-- One error under the array's own name, of the kind of the first one. -/
  | promoteFirst
  /-- Every error, under its index. -/
  | indexQualified
  deriving DecidableEq

namespace Policy

def name : Policy → String
  | promoteFirst => "promote_first"
  | indexQualified => "index_qualified"

/-- The policy that a text names, blanks around it and the case of its letters left aside. -/
def read? (s : String) : Option Policy :=
  match Text.lower (Text.trim s) with
  | "promote_first" => some promoteFirst
  | "first" => some promoteFirst
  | "index_qualified" => some indexQualified
  | "index" => some indexQualified
  | _ => none

end Policy

structure Context where
  policy : Policy := .promoteFirst
  zone : Option Calendar.Offset := none
  deriving DecidableEq

/-- The zone that times are shown in: UTC, unless another one is configured. -/
def Context.effectiveZone (ctx : Context) : Calendar.Offset :=
  ctx.zone.getD .utc

end Intake
