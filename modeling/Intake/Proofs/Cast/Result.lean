import Intake.Proofs.Report.Policy

/-!
# Results of casts

A cast reads its result off the verdict: an error of the filter itself if there is one, else where
the first issue of the report in full is, else the value.  So a cast goes well if and only if there
is nothing to report, in full (`cast_eq_ok_iff`) or by the policy (`issues_eq_nil_iff`).
-/

namespace Intake

namespace Verdict

variable {verdict : Verdict}

theorem result_of_error {error : CastError} (h : verdict.error? = some error) :
    verdict.result = .error error := by
  rw [result, h]

theorem result_of_nil (h : verdict.flatten true = []) : verdict.result = .ok verdict.value := by
  cases he : verdict.error? with
  | some error => rw [flatten_of_error he] at h; exact absurd h (by simp)
  | none => rw [result, he, h]

theorem result_of_cons {first : Issue} {rest : Report} (he : verdict.error? = none)
    (h : verdict.flatten true = first :: rest) :
    verdict.result = .error (.nested verdict.head.name first.path verdict.value) := by
  rw [result, he, h]

theorem result_eq_ok_iff {value : Value} :
    verdict.result = .ok value ↔ verdict.flatten true = [] ∧ value = verdict.value := by
  constructor
  · intro h
    cases he : verdict.error? with
    | some error => rw [result_of_error he] at h; exact absurd h (by simp)
    | none =>
      cases hf : verdict.flatten true with
      | nil =>
        rw [result_of_nil hf, Except.ok.injEq] at h
        exact ⟨rfl, h.symm⟩
      | cons first rest => rw [result_of_cons he hf] at h; exact absurd h (by simp)
  · rintro ⟨hf, rfl⟩
    exact result_of_nil hf

theorem value_of_error {error : CastError} (h : verdict.error? = some error) :
    verdict.value = .nil := by
  cases verdict with
  | leaf head result =>
    cases result with
    | ok value => exact absurd h (by simp [error?])
    | error e => rw [value]
  | array head elements indexed => exact absurd h (by simp [error?])
  | hash head output fields => exact absurd h (by simp [error?])

end Verdict

namespace Filter

variable {ctx : Context} {drawn : Nat} {filter : Filter} {value : Value}

theorem cast_eq_ok_iff {result : Value} :
    filter.cast ctx drawn value = .ok result ↔
      (filter.judge ctx drawn value).flatten true = [] ∧
        result = (filter.judge ctx drawn value).value :=
  Verdict.result_eq_ok_iff

theorem exists_cast_eq_ok_iff :
    (∃ result, filter.cast ctx drawn value = .ok result) ↔
      (filter.judge ctx drawn value).flatten true = [] := by
  constructor
  · rintro ⟨result, h⟩
    exact (cast_eq_ok_iff.mp h).1
  · intro h
    exact ⟨_, cast_eq_ok_iff.mpr ⟨h, rfl⟩⟩

/-- Nothing is reported, whatever the policy is, if and only if the cast goes well. -/
theorem issues_eq_nil_iff :
    (filter.judge ctx drawn value).issues = [] ↔
      ∃ result, filter.cast ctx drawn value = .ok result := by
  rw [Verdict.issues, flatten_false_eq_nil_iff, exists_cast_eq_ok_iff]

end Filter

end Intake
