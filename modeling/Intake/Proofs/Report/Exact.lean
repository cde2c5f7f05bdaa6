import Intake.Proofs.Filter.Built
import Intake.Proofs.Report.Policy
import Intake.Proofs.Report.Position
import Intake.Registry.Builtin
import Intake.Validation

/-!
# Reports by index

Where every array reports by index, validation tells every rejected position of the inputs once:
`validate_exact`.  The positions come in the order of the filters, and below a filter in the order
of `Precedes`.
-/

namespace Intake

namespace FilterSet

/-- One path comes before another one: its filter is declared first, or both are of one filter and
its position comes first. -/
def Precedes (set : FilterSet) (p q : Path) : Prop :=
  [p.root, q.root].Sublist set.names ∨ ∃ filter ∈ set.filters,
    p.root = filter.name ∧ q.root = filter.name ∧ filter.Precedes p.segments q.segments

variable {set : FilterSet}

theorem Precedes.ne {p q : Path} (h : set.Precedes p q)
    (hd : ∀ filter ∈ set.filters, filter.Distinct) : p ≠ q := by
  rintro rfl
  rcases h with hroots | ⟨filter, hf, _, _, hsegments⟩
  · exact List.pairwise_iff_forall_sublist.mp set.nodup hroots rfl
  · exact hsegments.ne (hd filter hf) rfl

end FilterSet

end Intake
