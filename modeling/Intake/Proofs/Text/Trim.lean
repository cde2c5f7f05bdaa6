import Intake.Text.Blank
import Mathlib.Data.List.Basic

/-!
# Trimmed texts

Trimming gives a text without blanks at its ends, and leaves such a text as it is.
-/

namespace Intake.Text

/-- A text does not start or end with a blank. -/
def Trimmed (s : String) : Prop :=
  (∀ c ∈ s.toList.head?, isBlank c = false) ∧ ∀ c ∈ s.toList.getLast?, isBlank c = false

theorem isBlank_of_mem_head?_trimStart {cs : List Char} {c : Char}
    (h : c ∈ (trimStart cs).head?) : isBlank c = false := by
  have hhead := List.head?_dropWhile_not isBlank cs
  rw [Option.mem_def, trimStart] at h
  rw [h] at hhead
  exact hhead

theorem trimStart_eq_self {cs : List Char} (h : ∀ c ∈ cs.head?, isBlank c = false) :
    trimStart cs = cs := by
  cases cs with
  | nil => rfl
  | cons c rest =>
    have hc : isBlank c = false := h c rfl
    rw [trimStart, List.dropWhile_cons_of_neg (by simp [hc])]

/-- What is left of a text has the last character of the text. -/
theorem getLast?_trimStart {cs : List Char} {c : Char} (h : c ∈ (trimStart cs).getLast?) :
    c ∈ cs.getLast? := by
  obtain ⟨front, hfront⟩ := List.dropWhile_suffix (l := cs) isBlank
  rw [← hfront]
  exact List.mem_getLast?_append_of_mem_getLast? h

theorem trimmed_trim (s : String) : Trimmed (trim s) := by
  rw [Trimmed, trim, String.toList_ofList, trimChars]
  constructor
  · intro c hc
    rw [List.head?_reverse] at hc
    have hlast := getLast?_trimStart hc
    rw [List.getLast?_reverse] at hlast
    exact isBlank_of_mem_head?_trimStart hlast
  · intro c hc
    rw [List.getLast?_reverse] at hc
    exact isBlank_of_mem_head?_trimStart hc

theorem trim_of_trimmed {s : String} (h : Trimmed s) : trim s = s := by
  have hreverse : ∀ c ∈ s.toList.reverse.head?, isBlank c = false := by
    intro c hc
    rw [List.head?_reverse] at hc
    exact h.2 c hc
  rw [trim, trimChars, trimStart_eq_self h.1, trimStart_eq_self hreverse, List.reverse_reverse,
    String.ofList_toList]

theorem trimChars_eq_self {cs : List Char} (h : ∀ c ∈ cs, isBlank c = false) :
    trimChars cs = cs := by
  have hreverse : ∀ c ∈ cs.reverse.head?, isBlank c = false := fun c hc =>
    h c (List.mem_reverse.mp (List.mem_of_mem_head? hc))
  rw [trimChars, trimStart_eq_self fun c hc => h c (List.mem_of_mem_head? hc),
    trimStart_eq_self hreverse, List.reverse_reverse]

theorem isBlank_of_isDigit {c : Char} (h : c.isDigit = true) : isBlank c = false := by
  rw [Char.isDigit, Bool.and_eq_true, decide_eq_true_eq, decide_eq_true_eq] at h
  have hge : '0'.toNat ≤ c.toNat := h.1
  have hle : c.toNat ≤ '9'.toNat := h.2
  have hzero : '0'.toNat = 48 := rfl
  have hnine : '9'.toNat = 57 := rfl
  simp [isBlank]
  omega

end Intake.Text
