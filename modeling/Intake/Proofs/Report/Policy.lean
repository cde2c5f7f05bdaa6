import Intake.Proofs.Filter.Parts

/-!
# Policies and reports

What the policy leaves alone.  Whether arrays report by index or promote the first error of their
elements, a verdict has issues or has none, and its first issue is of the same kind.  Where no array
promotes, the report is the one in full.
-/

namespace Intake.Filter

variable {ctx : Context} {drawn : Nat}

/-- The kind of the first issue of a list that puts lists in a row depends only on the kinds of their
first issues. -/
theorem head?_kind_flatMap {α : Type} {f g : α → Report} (parts : List α)
    (h : ∀ part ∈ parts, (f part).head?.map Issue.kind = (g part).head?.map Issue.kind) :
    (parts.flatMap f).head?.map Issue.kind = (parts.flatMap g).head?.map Issue.kind := by
  induction parts with
  | nil => rfl
  | cons part rest ih =>
    have hpart := h part List.mem_cons_self
    have hrest := ih fun p hp => h p (List.mem_cons_of_mem _ hp)
    rw [List.flatMap_cons, List.flatMap_cons, List.head?_append, List.head?_append]
    cases hf : f part with
    | nil =>
      rw [hf, List.head?_nil, Option.map_none, eq_comm, Option.map_eq_none_iff] at hpart
      rw [hpart, List.head?_nil, Option.none_or, Option.none_or]
      exact hrest
    | cons first others =>
      rw [hf] at hpart
      cases hg : g part with
      | nil => rw [hg] at hpart; exact absurd hpart (by simp)
      | cons first' others' =>
        rw [hg] at hpart
        exact hpart

theorem head?_kind_partIssues {filter : Filter} {value : Value}
    (h : ∀ part ∈ filter.parts drawn value,
      ((part.filter.judge ctx drawn part.value).flatten false).head?.map Issue.kind =
        ((part.filter.judge ctx drawn part.value).flatten true).head?.map Issue.kind) :
    (filter.partIssues ctx drawn false value).head?.map Issue.kind =
      (filter.partIssues ctx drawn true value).head?.map Issue.kind := by
  refine head?_kind_flatMap _ fun part hp => ?_
  rw [List.head?_map, List.head?_map, Option.map_map, Option.map_map]
  exact h part hp

/-- The first issue has the same kind in full and by the policy. -/
theorem head?_kind_flatten (filter : Filter) : ∀ value : Value,
    ((filter.judge ctx drawn value).flatten false).head?.map Issue.kind =
      ((filter.judge ctx drawn value).flatten true).head?.map Issue.kind := by
  induction filter using Filter.ind with
  | step filter ih =>
    intro value
    cases he : (filter.judge ctx drawn value).error? with
    | some error => rw [Verdict.flatten_of_error he, Verdict.flatten_of_error he]
    | none =>
      have hparts : (filter.partIssues ctx drawn false value).head?.map Issue.kind =
          (filter.partIssues ctx drawn true value).head?.map Issue.kind :=
        head?_kind_partIssues fun part hp =>
          ih part.filter (mem_children_of_mem_parts hp) part.value
      rw [flatten_false_judge he, flatten_true_judge he, ← hparts]
      split
      · cases (filter.partIssues ctx drawn false value).head? with
        | none => rfl
        | some first => rfl
      · rfl

/-- A report is empty by the policy if and only if it is empty in full. -/
theorem flatten_false_eq_nil_iff {filter : Filter} {value : Value} :
    (filter.judge ctx drawn value).flatten false = [] ↔
      (filter.judge ctx drawn value).flatten true = [] := by
  rw [← List.head?_eq_none_iff, ← List.head?_eq_none_iff, ← Option.map_eq_none_iff,
    head?_kind_flatten filter value, Option.map_eq_none_iff]

end Intake.Filter
