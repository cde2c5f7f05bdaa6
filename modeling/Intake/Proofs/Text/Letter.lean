import Intake.Text.Case

/-!
# Letters and digits

How capital letters, small letters and digits go together.  They are three rows of code points below
128.  So they are told apart by their numbers, and what becomes of them in another case is found by
looking at each: `cased_of_isAlphanum`.
-/

namespace Intake.Text

variable {c : Char}

/-! ### Code points -/

theorem isUpper_iff : c.isUpper = true ↔ 65 ≤ c.toNat ∧ c.toNat ≤ 90 := by
  unfold Char.isUpper
  simp only [decide_eq_true_eq, UInt32.le_iff_toNat_le]
  exact Iff.rfl

theorem isLower_iff : c.isLower = true ↔ 97 ≤ c.toNat ∧ c.toNat ≤ 122 := by
  unfold Char.isLower
  simp only [Bool.and_eq_true, decide_eq_true_eq, ge_iff_le, UInt32.le_iff_toNat_le]
  exact Iff.rfl

theorem not_isLower_of_isUpper (h : c.isUpper = true) : c.isLower = false := by
  rw [Bool.eq_false_iff, ne_eq, isLower_iff]
  rw [isUpper_iff] at h
  omega

theorem not_isUpper_of_isLower (h : c.isLower = true) : c.isUpper = false := by
  rw [Bool.eq_false_iff, ne_eq, isUpper_iff]
  rw [isLower_iff] at h
  omega

theorem not_isUpper_of_isDigit (h : c.isDigit = true) : c.isUpper = false := by
  rw [Bool.eq_false_iff, ne_eq, isUpper_iff]
  rw [Char.isDigit_iff_toNat] at h
  simp only [Char.reduceToNat] at h
  omega

theorem not_isDigit_of_isUpper (h : c.isUpper = true) : c.isDigit = false := by
  cases hdigit : c.isDigit with
  | false => rfl
  | true => exact absurd (h.symm.trans (not_isUpper_of_isDigit hdigit)) (by decide)

theorem isAlphanum_iff :
    c.isAlphanum = true ↔ (c.isUpper = true ∨ c.isLower = true) ∨ c.isDigit = true := by
  unfold Char.isAlphanum Char.isAlpha
  simp only [Bool.or_eq_true]

theorem isAlphanum_of_isUpper (h : c.isUpper = true) : c.isAlphanum = true :=
  isAlphanum_iff.mpr (.inl (.inl h))

theorem isAlphanum_of_isLower (h : c.isLower = true) : c.isAlphanum = true :=
  isAlphanum_iff.mpr (.inl (.inr h))

theorem isAlphanum_of_isDigit (h : c.isDigit = true) : c.isAlphanum = true :=
  isAlphanum_iff.mpr (.inr h)

theorem toNat_lt_of_isAlphanum (h : c.isAlphanum = true) : c.toNat < 128 := by
  rw [isAlphanum_iff, isUpper_iff, isLower_iff, Char.isDigit_iff_toNat] at h
  simp only [Char.reduceToNat] at h
  omega

/-! ### Case -/

/-- The mapping to upper case and the changes between capital and small letters agree. -/
structure Cased (c : Char) : Prop where
  upper : upperChar c = [c.toUpper]
  isUpper_toUpper : c.toUpper.isUpper = c.isAlpha
  toLower_toUpper : c.toUpper.toLower = c.toLower
  isLower_toLower : c.isUpper = true → c.toLower.isLower = true
  toUpper_toLower : c.isUpper = true → c.toLower.toUpper = c

theorem cased_of_isAlphanum (h : c.isAlphanum = true) : Cased c := by
  have each : ∀ n < 128, (Char.ofNat n).isAlphanum = true →
      upperChar (Char.ofNat n) = [(Char.ofNat n).toUpper] ∧
      (Char.ofNat n).toUpper.isUpper = (Char.ofNat n).isAlpha ∧
      (Char.ofNat n).toUpper.toLower = (Char.ofNat n).toLower ∧
      ((Char.ofNat n).isUpper = true → (Char.ofNat n).toLower.isLower = true) ∧
      ((Char.ofNat n).isUpper = true → (Char.ofNat n).toLower.toUpper = Char.ofNat n) := by
    decide +kernel
  have hc := each c.toNat (toNat_lt_of_isAlphanum h)
  rw [Char.ofNat_toNat] at hc
  obtain ⟨upper, isUpper, toLower, isLower, toUpper⟩ := hc h
  exact ⟨upper, isUpper, toLower, isLower, toUpper⟩

theorem toLower_of_not_isUpper (h : c.isUpper = false) : c.toLower = c := by
  unfold Char.isUpper at h
  exact dif_neg (of_decide_eq_false h)

end Intake.Text
