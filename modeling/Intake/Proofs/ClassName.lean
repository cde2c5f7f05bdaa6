import Intake.ClassName
import Intake.Proofs.Text.Scope

/-!
# The grammar of class names

`Spelled` is the grammar of class names, and `isClassName_iff` says that just the texts of this
grammar are taken for class names.
-/

namespace Intake.ClassName

/-- A constant is a capital letter, and then letters, digits and underscores. -/
def Constant (part : List Char) : Prop :=
  ∃ c rest, part = c :: rest ∧ c.isUpper = true ∧ ∀ d ∈ rest, d.isAlphanum = true ∨ d = '_'

/-- A class name is one or more constants with double colons between them. -/
def Spelled (name : String) : Prop :=
  ∃ parts, parts ≠ [] ∧ (∀ part ∈ parts, Constant part) ∧ name.toList = Text.joinScope parts

theorem isConstant_iff {part : List Char} : isConstant part = true ↔ Constant part := by
  cases part with
  | nil => simp [isConstant, Constant]
  | cons c rest => simp [isConstant, Constant]

theorem Constant.colon_notMem {part : List Char} (h : Constant part) : ':' ∉ part := by
  obtain ⟨c, rest, rfl, hc, hrest⟩ := h
  intro hm
  rcases List.mem_cons.mp hm with he | hm
  · exact absurd (he ▸ hc) (by decide)
  · exact absurd (hrest _ hm) (by decide)

theorem isClassName_iff {name : String} : isClassName name = true ↔ Spelled name := by
  rw [isClassName, List.all_eq_true]
  constructor
  · intro h
    exact ⟨_, Text.splitScope_ne_nil _, fun part hp => isConstant_iff.mp (h part hp),
      (Text.joinScope_splitScope _).symm⟩
  · rintro ⟨parts, hne, hparts, hname⟩
    rw [hname, Text.splitScope_joinScope hne fun part hp => (hparts part hp).colon_notMem]
    exact fun part hp => isConstant_iff.mpr (hparts part hp)

end Intake.ClassName
