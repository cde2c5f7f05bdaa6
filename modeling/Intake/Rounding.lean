/-!
# Rounding a quotient

The nearest natural number to a quotient, with the two usual rules for ties.
-/

namespace Intake

/-- The nearest number to `num / den`; a tie goes to the even neighbour. -/
def halfEven (num den : Nat) : Nat :=
  let q := num / den
  let r := num % den
  if 2 * r < den then q
  else if den < 2 * r then q + 1
  else if q % 2 = 0 then q
  else q + 1

/-- The nearest number to `num / den`; a tie goes up. -/
def halfUp (num den : Nat) : Nat :=
  (2 * num + den) / (2 * den)

end Intake
