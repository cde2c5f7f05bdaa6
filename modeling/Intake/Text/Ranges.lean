/-!
# Sets of characters given by ranges

A property of characters is stored as the ascending list of the closed ranges of code points that
have it.
-/

namespace Intake.Text

/-- Closed ranges of code points, ascending and apart. -/
abbrev Ranges := List (Nat × Nat)

def Ranges.holds (ranges : Ranges) (code : Nat) : Bool :=
  ranges.any fun (first, last) => first ≤ code && code ≤ last

end Intake.Text
