import Intake.Proofs.Text.Scope

/-!
# Splits at a character

A text is split at a character as lists are, and the parts have all its other characters.
-/

namespace Intake.Text

theorem consHead_eq_modifyHead (c : Char) {parts : List (List Char)} (h : parts ≠ []) :
    consHead c parts = parts.modifyHead (List.cons c) := by
  cases parts with
  | nil => exact absurd rfl h
  | cons part parts => rfl

/-- The split at a character is the one of lists. -/
theorem splitAt_eq_splitOn (separator : Char) (cs : List Char) :
    splitAt separator cs = cs.splitOn separator := by
  induction cs with
  | nil => rfl
  | cons c rest ih =>
    rw [splitAt, ih, consHead_eq_modifyHead c (List.splitOn_ne_nil separator rest),
      List.splitOn_cons_eq_if_modifyHead]
    simp only [beq_iff_eq]

theorem flatten_consHead (c : Char) (parts : List (List Char)) :
    (consHead c parts).flatten = c :: parts.flatten := by
  cases parts with
  | nil => rfl
  | cons part parts => rfl

/-- The parts have all characters but the separators. -/
theorem flatten_splitAt (separator : Char) (cs : List Char) :
    (splitAt separator cs).flatten = cs.filter (· ≠ separator) := by
  induction cs with
  | nil => rfl
  | cons c rest ih =>
    rw [splitAt]
    by_cases hc : c = separator
    · rw [if_pos hc, List.flatten_cons, List.nil_append, ih,
        List.filter_cons_of_neg (by simp [hc])]
    · rw [if_neg hc, flatten_consHead, ih, List.filter_cons_of_pos (by simp [hc])]

theorem mem_of_mem_splitAt {separator c : Char} {cs part : List Char}
    (hpart : part ∈ splitAt separator cs) (hc : c ∈ part) : c ∈ cs ∧ c ≠ separator := by
  have hflat : c ∈ (splitAt separator cs).flatten := List.mem_flatten.mpr ⟨_, hpart, hc⟩
  rw [flatten_splitAt, List.mem_filter, decide_eq_true_eq] at hflat
  exact hflat

end Intake.Text
