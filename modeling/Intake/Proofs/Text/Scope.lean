import Intake.Text.Split
import Mathlib.Data.List.Basic

/-!
# Scopes

Splitting a text at double colons and joining the parts again gives the text.  Joining parts without
colons and splitting gives the parts.
-/

namespace Intake.Text

theorem consHead_ne_nil (c : Char) (parts : List (List Char)) : consHead c parts ≠ [] := by
  cases parts with
  | nil => exact List.cons_ne_nil _ _
  | cons part parts => exact List.cons_ne_nil _ _

theorem splitScope_ne_nil (cs : List Char) : splitScope cs ≠ [] := by
  unfold splitScope
  split
  · exact List.cons_ne_nil _ _
  · exact List.cons_ne_nil _ _
  · exact consHead_ne_nil _ _

theorem joinScope_cons {part : List Char} {parts : List (List Char)} (h : parts ≠ []) :
    joinScope (part :: parts) = part ++ ':' :: ':' :: joinScope parts := by
  cases parts with
  | nil => exact absurd rfl h
  | cons next parts => rfl

theorem joinScope_consHead (c : Char) {parts : List (List Char)} (h : parts ≠ []) :
    joinScope (consHead c parts) = c :: joinScope parts := by
  cases parts with
  | nil => exact absurd rfl h
  | cons part parts =>
    cases parts with
    | nil => rfl
    | cons next parts => rfl

theorem joinScope_splitScope (cs : List Char) : joinScope (splitScope cs) = cs := by
  fun_induction splitScope cs with
  | case1 => rfl
  | case2 rest ih => rw [joinScope_cons (splitScope_ne_nil rest), ih, List.nil_append]
  | case3 c rest _ ih => rw [joinScope_consHead c (splitScope_ne_nil rest), ih]

theorem splitScope_cons {c : Char} (h : c ≠ ':') (rest : List Char) :
    splitScope (c :: rest) = consHead c (splitScope rest) := by
  rw [splitScope]
  rintro _ rfl
  exact absurd rfl h

/-- What stands before the first colon belongs to the first part. -/
theorem splitScope_append {part : List Char} (h : ':' ∉ part) {rest first : List Char}
    {others : List (List Char)} (hrest : splitScope rest = first :: others) :
    splitScope (part ++ rest) = (part ++ first) :: others := by
  induction part with
  | nil => exact hrest
  | cons c part ih =>
    rw [List.mem_cons, not_or] at h
    rw [List.cons_append, splitScope_cons (Ne.symm h.1), ih h.2]
    rfl

theorem splitScope_joinScope {parts : List (List Char)} (hne : parts ≠ [])
    (h : ∀ part ∈ parts, ':' ∉ part) : splitScope (joinScope parts) = parts := by
  induction parts with
  | nil => exact absurd rfl hne
  | cons part parts ih =>
    have hpart : ':' ∉ part := h part List.mem_cons_self
    by_cases hparts : parts = []
    · subst hparts
      have hsplit : splitScope (part ++ []) = [part ++ []] := splitScope_append hpart rfl
      rw [List.append_nil] at hsplit
      exact hsplit
    · have hrest := ih hparts fun p hp => h p (List.mem_cons_of_mem _ hp)
      rw [joinScope_cons hparts, splitScope_append hpart rfl, hrest, List.append_nil]

end Intake.Text
