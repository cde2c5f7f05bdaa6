import Intake.Decimal.Basic

/-!
# Reading decimals

A numeral without an exponent is read exactly or not at all.  A numeral with one takes its digits
rounded to what a coefficient can hold, half away from zero, and then moves the point; the exponent
is at most 28 either way.
-/

namespace Intake.Decimal

/-- The exact decimal of a numeral without an exponent. -/
def ofPlain? (numeral : Numeral) : Option Decimal :=
  ofParts? numeral.negative numeral.coefficient numeral.fraction.length

/-- Rounds up by one in the last place, where the coefficient is full with one place less. -/
def roundUp? (magnitude scale : Nat) : Option (Nat × Nat) :=
  if magnitude + 1 < coefficientBound then some (magnitude + 1, scale)
  else if scale = 0 then none
  else some ((magnitude + 5) / 10, scale - 1)

/-- Takes digits after the point as long as they fit and rounds at the first that does not. -/
def takeFraction? (magnitude scale : Nat) : List Char → Option (Nat × Nat)
  | [] => some (magnitude, scale)
  | c :: rest =>
    let next := 10 * magnitude + digitValue c
    if scale < 28 ∧ next < coefficientBound then takeFraction? next (scale + 1) rest
    else if 5 ≤ digitValue c then roundUp? magnitude scale
    else some (magnitude, scale)

/-- The rounded coefficient and scale of a numeral, its exponent left aside. -/
def rounded? (numeral : Numeral) : Option (Nat × Nat) :=
  let whole := digitsValue numeral.whole
  if whole < coefficientBound then takeFraction? whole 0 numeral.fraction else none

/-- Moves the point by an exponent; where the scale does not hold a positive one, the coefficient
takes the rest. -/
def movePoint? (negative : Bool) (magnitude scale : Nat) (exponent : Int) : Option Decimal :=
  if 28 < exponent.natAbs then none
  else if exponent ≤ scale then ofParts? negative magnitude (scale - exponent).toNat
  else ofParts? negative (magnitude * tenTo (exponent - scale).toNat) 0

def ofNumeral? (numeral : Numeral) : Option Decimal :=
  match numeral.exponent with
  | none => ofPlain? numeral
  | some exponent =>
    (rounded? numeral).bind fun (magnitude, scale) =>
      movePoint? numeral.negative magnitude scale exponent

end Intake.Decimal
