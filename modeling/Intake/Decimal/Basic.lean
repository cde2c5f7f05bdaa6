import Intake.Numeral
import Intake.Power

/-!
# Exact decimals

A decimal is an integer coefficient of at most 96 bits over a power of ten, the scale, of at most
28.  The scale belongs to the decimal: `1.5` and `1.50` have the same value and different texts.
-/

namespace Intake

/-- What the size of a coefficient is less than, `2 ^ 96`. -/
def coefficientBound : Nat := 0x1000000000000000000000000

/-- The decimal `coefficient / 10 ^ scale`. -/
structure Decimal where
  coefficient : Int
  scale : Nat
  coefficient_lt : coefficient.natAbs < coefficientBound
  scale_le : scale ≤ 28
  deriving DecidableEq

namespace Decimal

def ofParts? (negative : Bool) (magnitude scale : Nat) : Option Decimal :=
  if h : magnitude < coefficientBound ∧ scale ≤ 28 then
    some
      { coefficient := if negative then -magnitude else magnitude
        scale
        coefficient_lt := by split <;> omega
        scale_le := h.2 }
  else
    none

def magnitude (d : Decimal) : Nat :=
  d.coefficient.natAbs

def isNegative (d : Decimal) : Bool :=
  d.coefficient < 0

def ofInt64 (n : Int64) : Decimal where
  coefficient := n.toInt
  scale := 0
  coefficient_lt := by
    have := n.toInt_lt
    have := n.le_toInt
    simp only [coefficientBound]
    omega
  scale_le := by decide

def truncate (d : Decimal) : Int :=
  d.coefficient.tdiv (tenTo d.scale)

/-- Whether two decimals have the same value, whatever their scales. -/
def same (a b : Decimal) : Bool :=
  a.coefficient * tenTo b.scale == b.coefficient * tenTo a.scale

/-- Divides by ten as long as nothing is lost and the scale allows it. -/
def dropZeros : (scale : Nat) → (magnitude : Nat) → Nat × Nat
  | 0, magnitude => (magnitude, 0)
  | scale + 1, magnitude =>
    if magnitude % 10 = 0 then dropZeros scale (magnitude / 10) else (magnitude, scale + 1)

theorem dropZeros_le (scale magnitude : Nat) :
    (dropZeros scale magnitude).1 ≤ magnitude ∧ (dropZeros scale magnitude).2 ≤ scale := by
  induction scale generalizing magnitude with
  | zero => exact ⟨Nat.le_refl _, Nat.le_refl _⟩
  | succ scale ih =>
    unfold dropZeros
    split
    · obtain ⟨h₁, h₂⟩ := ih (magnitude / 10)
      exact ⟨Nat.le_trans h₁ (Nat.div_le_self _ _), Nat.le_succ_of_le h₂⟩
    · exact ⟨Nat.le_refl _, Nat.le_refl _⟩

/-- The same value without zeros at the end of its fraction. -/
def normalize (d : Decimal) : Decimal :=
  let parts := dropZeros d.scale d.magnitude
  { coefficient := if d.isNegative then -parts.1 else parts.1
    scale := parts.2
    coefficient_lt := by
      have h := (dropZeros_le d.scale d.magnitude).1
      have := d.coefficient_lt
      simp only [magnitude] at h
      split <;> simp only [Int.natAbs_neg, Int.natAbs_natCast, parts, magnitude] <;> omega
    scale_le := Nat.le_trans (dropZeros_le d.scale d.magnitude).2 d.scale_le }

/-- The text of a decimal: all its digits, as many after the point as the scale says. -/
def text (d : Decimal) : String :=
  let digits := decimalDigits d.magnitude
  let digits := List.replicate (d.scale + 1 - digits.length) '0' ++ digits
  let whole := digits.take (digits.length - d.scale)
  let fraction := digits.drop (digits.length - d.scale)
  String.ofList
    ((if d.isNegative then ['-'] else []) ++ whole ++
      if fraction.isEmpty then [] else '.' :: fraction)

end Decimal

end Intake
