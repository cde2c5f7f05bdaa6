import Intake.Decimal.Basic
import Mathlib.Data.Rat.Floor
import Mathlib.Tactic.FieldSimp
import Mathlib.Tactic.Positivity

/-!
# The values of decimals

A decimal stands for a rational number.  `Holds` says which numbers decimals stand for;
`truncate_eq_towardZero` that the integer part is the number without its fraction.
-/

namespace Intake

def towardZero (q : ℚ) : ℤ :=
  if 0 ≤ q then ⌊q⌋ else ⌈q⌉

namespace Decimal

def value (d : Decimal) : ℚ :=
  d.coefficient / 10 ^ d.scale

/-- Some decimal stands for a number. -/
def Holds (q : ℚ) : Prop :=
  ∃ d : Decimal, d.value = q

def withSign (negative : Bool) (q : ℚ) : ℚ :=
  if negative then -q else q

@[simp] theorem withSign_false (q : ℚ) : withSign false q = q := rfl

@[simp] theorem withSign_true (q : ℚ) : withSign true q = -q := rfl

theorem withSign_inj {negative : Bool} {p q : ℚ} :
    withSign negative p = withSign negative q ↔ p = q := by
  cases negative with
  | false => exact Iff.rfl
  | true => exact neg_inj

theorem withSign_mul (negative : Bool) (p q : ℚ) :
    withSign negative p * q = withSign negative (p * q) := by
  cases negative with
  | false => rfl
  | true => exact neg_mul p q

theorem abs_withSign_sub (negative : Bool) (p q : ℚ) :
    |withSign negative p - withSign negative q| = |p - q| := by
  cases negative with
  | false => rfl
  | true =>
    have h : withSign true p - withSign true q = -(p - q) := by
      rw [withSign_true, withSign_true]
      ring
    rw [h, abs_neg]

/-! ### Decimals from their parts -/

theorem ofParts?_eq_none_iff {negative : Bool} {magnitude scale : Nat} :
    ofParts? negative magnitude scale = none ↔ ¬(magnitude < coefficientBound ∧ scale ≤ 28) := by
  unfold ofParts?
  split
  · next h => simp [h]
  · next h => simp [h]

theorem exists_ofParts?_iff {negative : Bool} {magnitude scale : Nat} :
    (∃ d, ofParts? negative magnitude scale = some d) ↔
      magnitude < coefficientBound ∧ scale ≤ 28 := by
  rw [← Option.isSome_iff_exists, Option.isSome_iff_ne_none, Ne, ofParts?_eq_none_iff,
    Classical.not_not]

theorem scale_of_ofParts? {negative : Bool} {magnitude scale : Nat} {d : Decimal}
    (h : ofParts? negative magnitude scale = some d) : d.scale = scale := by
  unfold ofParts? at h
  split at h
  · rw [← Option.some.inj h]
  · exact absurd h (by simp)

theorem value_of_ofParts? {negative : Bool} {magnitude scale : Nat} {d : Decimal}
    (h : ofParts? negative magnitude scale = some d) :
    d.value = withSign negative (magnitude / 10 ^ scale) := by
  unfold ofParts? at h
  split at h
  · rw [← Option.some.inj h, value]
    cases negative with
    | false => simp [withSign]
    | true => simp [withSign, neg_div]
  · exact absurd h (by simp)

/-- A number is the quotient of a coefficient and a power of ten that fit. -/
def Fits (q : ℚ) : Prop :=
  ∃ magnitude scale : Nat, magnitude < coefficientBound ∧ scale ≤ 28 ∧
    (magnitude / 10 ^ scale : ℚ) = q

theorem holds_withSign_iff {negative : Bool} {q : ℚ} (hq : 0 ≤ q) :
    Holds (withSign negative q) ↔ Fits q := by
  constructor
  · rintro ⟨d, hd⟩
    refine ⟨d.magnitude, d.scale, d.coefficient_lt, d.scale_le, ?_⟩
    have habs : |d.value| = q := by
      rw [hd]
      cases negative with
      | false => exact abs_of_nonneg hq
      | true => rw [withSign, if_pos rfl, abs_neg, abs_of_nonneg hq]
    rw [← habs, value, abs_div, magnitude, Nat.cast_natAbs, Int.cast_abs]
    rw [abs_of_pos (by positivity : (0 : ℚ) < 10 ^ d.scale)]
  · rintro ⟨magnitude, scale, hlt, hle, rfl⟩
    have hparts : ∃ d, ofParts? negative magnitude scale = some d :=
      exists_ofParts?_iff.mpr ⟨hlt, hle⟩
    obtain ⟨d, hd⟩ := hparts
    exact ⟨d, value_of_ofParts? hd⟩

/-- What a decimal holds is whole at 28 places. -/
theorem Holds.exists_eq_intCast {q : ℚ} (h : Holds q) : ∃ n : ℤ, q * 10 ^ 28 = n := by
  obtain ⟨d, rfl⟩ := h
  obtain ⟨k, hk⟩ := Nat.exists_eq_add_of_le d.scale_le
  refine ⟨d.coefficient * 10 ^ k, ?_⟩
  rw [value, hk, pow_add]
  push_cast
  field_simp

/-! ### The integer part -/

theorem towardZero_of_nonneg {q : ℚ} (h : 0 ≤ q) : towardZero q = ⌊q⌋ := if_pos h

theorem towardZero_of_nonpos {q : ℚ} (h : q ≤ 0) : towardZero q = ⌈q⌉ := by
  rcases h.eq_or_lt with rfl | h
  · simp [towardZero]
  · exact if_neg h.not_ge

theorem towardZero_intCast_div (n : ℤ) (k : ℕ) : towardZero (n / k) = n.tdiv k := by
  rcases le_total 0 n with hn | hn
  · have hq : 0 ≤ (n / k : ℚ) := by positivity
    rw [towardZero_of_nonneg hq, Rat.floor_intCast_div_natCast, Int.tdiv_eq_ediv_of_nonneg hn]
  · have hneg : 0 ≤ -n := by omega
    have hq : (n / k : ℚ) ≤ 0 := div_nonpos_of_nonpos_of_nonneg (by exact_mod_cast hn) (by positivity)
    rw [towardZero_of_nonpos hq, Rat.ceil_intCast_div_natCast, ← Int.tdiv_eq_ediv_of_nonneg hneg,
      Int.neg_tdiv, neg_neg]

theorem truncate_eq_towardZero (d : Decimal) : d.truncate = towardZero d.value := by
  rw [value, truncate, ← Nat.cast_ofNat, ← Nat.cast_pow, towardZero_intCast_div]
  rfl

/-! ### Integers -/

theorem value_ofInt64 (n : Int64) : (ofInt64 n).value = n.toInt := by
  rw [value, ofInt64, pow_zero, div_one]

theorem truncate_of_value {d : Decimal} {n : ℤ} (h : d.value = n) : d.truncate = n := by
  rw [truncate_eq_towardZero, h, towardZero]
  simp

end Decimal

end Intake
