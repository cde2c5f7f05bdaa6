import Intake.Validation

/-!
# Batches

The inputs of a batch are validated by tasks that complete in any order; every task leaves its
report with the position of its inputs.  The reports are then put in the order of the inputs, and a
task that left none gives a report that says so.
-/

namespace Intake

/-- The report in place of that of a task that failed. -/
def taskFailed : Report :=
  [.custom "base" "task_failed" []]

/-- The reports of tasks in the order of their positions. -/
def assemble (size : Nat) (completions : List (Nat × Report)) : List Report :=
  (List.range size).map fun position => (completions.lookup position).getD taskFailed

namespace FilterSet

/-- The completions of the tasks of a batch, from a position on, when each starts after the one
before it. -/
def completions (set : FilterSet) (ctx : Context) :
    (position : Nat) → Tally → List (Entries Value) → List (Nat × Report)
  | _, _, [] => []
  | position, tally, inputs :: rest =>
    (position, set.validate ctx tally inputs) ::
      completions set ctx (position + 1) (set.tallyValidate tally inputs) rest

def validateBatch (set : FilterSet) (ctx : Context) (tally : Tally) (batch : List (Entries Value)) :
    List Report :=
  assemble batch.length (set.completions ctx 0 tally batch)

def tallyBatch (set : FilterSet) (tally : Tally) (batch : List (Entries Value)) : Tally :=
  batch.foldl set.tallyValidate tally

end FilterSet

end Intake
