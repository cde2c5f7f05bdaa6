import Intake.Proofs.Cast.Composite

/-!
# Verdicts that agree

A cast reads four things off a verdict: the name, the error of the node itself, the value and the
report in full.  Verdicts with the same ones agree, and give the same result (`Agrees.result`).
Whether arrays report by index is not among the four, and neither are the options of the filters.

Verdicts of containers agree where the verdicts of their parts do: `Agrees.array`, `Agrees.hash`.  So
filters of one shape, with heads that are `Alike`, come to verdicts that agree where their nested
filters do, in one step for each kind of filter: `judge_scalar_agrees` and so on.
-/

namespace Intake

namespace Verdict

/-- A cast makes no difference between two verdicts. -/
structure Agrees (a b : Verdict) : Prop where
  name : a.head.name = b.head.name
  error : a.error? = b.error?
  value : a.value = b.value
  full : a.flatten true = b.flatten true

theorem Agrees.refl (a : Verdict) : a.Agrees a :=
  ⟨rfl, rfl, rfl, rfl⟩

theorem Agrees.result {a b : Verdict} (h : a.Agrees b) : a.result = b.result := by
  rw [Verdict.result, Verdict.result, h.name, h.error, h.value, h.full]

variable {head head' : Head}

theorem ofKind_congr (name : head.name = head'.name) (slug : head.slug = head'.slug)
    (kind : IssueKind) : Issue.ofKind head kind = Issue.ofKind head' kind := by
  rw [Issue.ofKind, Issue.ofKind, name, slug]

theorem Agrees.leaf (name : head.name = head'.name) (slug : head.slug = head'.slug)
    (result : Except CastError Value) : (leaf head result).Agrees (leaf head' result) := by
  cases result with
  | ok value => exact ⟨name, rfl, rfl, rfl⟩
  | error error =>
    refine ⟨name, rfl, rfl, ?_⟩
    rw [flatten, flatten, ofKind_congr name slug]

/-! ### Containers -/

theorem flatten_true_array (head : Head) (elements : List Verdict) (indexed : Bool) :
    (array head elements indexed).flatten true = flattenElements true head.name 0 elements := by
  rw [flatten]
  cases flattenElements true head.name 0 elements with
  | nil => rfl
  | cons first rest => rfl

theorem flattenElements_congr {full : Bool} {elements elements' : List Verdict} (parent : String)
    (h : List.Forall₂ (fun a b => a.flatten full = b.flatten full) elements elements') : ∀ i,
    flattenElements full parent i elements = flattenElements full parent i elements' := by
  induction h with
  | nil => intro i; rfl
  | cons hfirst _ ih =>
    intro i
    rw [flattenElements, flattenElements, hfirst, ih (i + 1)]

theorem values_congr {elements elements' : List Verdict}
    (h : List.Forall₂ (fun a b => a.value = b.value) elements elements') :
    values elements = values elements' := by
  induction h with
  | nil => rfl
  | cons hfirst _ ih => rw [values, values, hfirst, ih]

theorem Agrees.array {elements elements' : List Verdict} (name : head.name = head'.name)
    (h : List.Forall₂ Agrees elements elements') (indexed indexed' : Bool) :
    (array head elements indexed).Agrees (array head' elements' indexed') := by
  have hvalues := values_congr (h.imp fun _ _ hab => hab.value)
  have hfull := flattenElements_congr head'.name (h.imp fun _ _ hab => hab.full) 0
  refine ⟨name, rfl, ?_, ?_⟩
  · rw [Verdict.value, Verdict.value, hvalues]
  · rw [flatten_true_array, flatten_true_array, name, hfull]

def FieldAgrees (a b : String × Verdict) : Prop :=
  a.1 = b.1 ∧ a.2.Agrees b.2

theorem flattenFields_of_agrees {fields fields' : List (String × Verdict)} (parent : String)
    (h : List.Forall₂ FieldAgrees fields fields') :
    flattenFields true parent fields = flattenFields true parent fields' := by
  induction h with
  | nil => rfl
  | cons hfirst _ ih => rw [flattenFields, flattenFields, hfirst.2.full, ih]

/-- What comes out of a hash filter, written with projections. -/
theorem output_eq (head : Head) (entries : Entries Value) (fields : List (String × Verdict)) :
    head.output entries fields = Entries.insertAll (if head.options.strip then [] else entries)
      (fields.map fun field => (field.1, field.2.value)) := rfl

theorem output_of_agrees {fields fields' : List (String × Verdict)}
    (strip : head.options.strip = head'.options.strip) (entries : Entries Value)
    (h : List.Forall₂ FieldAgrees fields fields') :
    head.output entries fields = head'.output entries fields' := by
  have hpairs : (fields.map fun field => (field.1, field.2.value)) =
      fields'.map fun field => (field.1, field.2.value) := by
    induction h with
    | nil => rfl
    | cons hfirst _ ih => rw [List.map_cons, List.map_cons, hfirst.1, hfirst.2.value, ih]
  rw [output_eq, output_eq, strip, hpairs]

theorem Agrees.hash {fields fields' : List (String × Verdict)} (name : head.name = head'.name)
    (strip : head.options.strip = head'.options.strip) (entries : Entries Value)
    (h : List.Forall₂ FieldAgrees fields fields') :
    (hash head (head.output entries fields) fields).Agrees
      (hash head' (head'.output entries fields') fields') := by
  refine ⟨name, rfl, ?_, ?_⟩
  · rw [Verdict.value, Verdict.value, output_of_agrees strip entries h]
  · rw [flatten, flatten, name, flattenFields_of_agrees head'.name h]

end Verdict

/-- Two heads with the same of what verdicts take from a head, defaults of hashes apart. -/
structure Head.Alike (a b : Head) : Prop where
  name : a.name = b.name
  slug : a.slug = b.slug
  strip : a.options.strip = b.options.strip
  fallback : ∀ value : Value, a.fallback value = b.fallback value

namespace Filter

variable {ctx ctx' : Context} {n m : Nat} {head head' : Head}

/-- Two filters of one name come to verdicts that agree, each in a context of its own. -/
structure JudgesAlike (ctx ctx' : Context) (n m : Nat) (a b : Filter) : Prop where
  name : a.name = b.name
  judge : ∀ value : Value, (a.judge ctx n value).Agrees (b.judge ctx' m value)

/-! ### One step of judging -/

/-- Hashes are judged alike if they are the same once the defaults are under them. -/
theorem judge_fields_agrees {fields fields' : List Filter} (name : head.name = head'.name)
    (strip : head.options.strip = head'.options.strip) (nonempty : fields ≠ [])
    (h : List.Forall₂ (JudgesAlike ctx ctx' n m) fields fields') {entries entries' : Entries Value}
    (merged : head.merged n entries = head'.merged m entries') :
    ((hash head fields).judge ctx n (.hash entries)).Agrees
      ((hash head' fields').judge ctx' m (.hash entries')) := by
  have hfields : List.Forall₂ Verdict.FieldAgrees
      (judgeFields ctx n (head.merged n entries) fields)
      (judgeFields ctx' m (head.merged n entries) fields') := by
    rw [judgeFields_eq_map, judgeFields_eq_map, List.forall₂_map_left_iff,
      List.forall₂_map_right_iff]
    refine h.imp fun f f' hf => ?_
    rw [← hf.name]
    exact ⟨rfl, hf.judge _⟩
  cases h with
  | nil => exact absurd rfl nonempty
  | cons hfirst hrest =>
    rw [judge, judge, ← merged]
    exact .hash name strip _ hfields

section Alike

variable (alike : head.Alike head')

include alike

theorem leaf_agrees (result : Except CastError Value) :
    (Verdict.leaf head result).Agrees (.leaf head' result) :=
  .leaf alike.name alike.slug result

theorem refused_agrees (value : Value) :
    (Verdict.leaf head (head.fallback value)).Agrees (.leaf head' (head'.fallback value)) := by
  rw [alike.fallback value]
  exact leaf_agrees alike _

theorem judge_scalar_agrees {rule : Scalar} {value : Value}
    (read : rule.read ctx value = rule.read ctx' value) :
    ((scalar head rule).judge ctx n value).Agrees ((scalar head' rule).judge ctx' m value) := by
  rw [judge, judge, Head.castScalar, Head.castScalar, read]
  cases rule.read ctx' value with
  | some result => exact leaf_agrees alike _
  | none => exact refused_agrees alike _

theorem judge_array_agrees (value : Value) :
    ((array head).judge ctx n value).Agrees ((array head').judge ctx' m value) := by
  cases value with
  | array items => exact leaf_agrees alike _
  | _ => exact refused_agrees alike _

theorem judge_arrayOf_agrees {element element' : Filter}
    (h : JudgesAlike ctx ctx' n m element element') (value : Value) :
    ((arrayOf head element).judge ctx n value).Agrees
      ((arrayOf head' element').judge ctx' m value) := by
  cases value with
  | array items =>
    have hitems : List.Forall₂ Verdict.Agrees (items.map (element.judge ctx n))
        (items.map (element'.judge ctx' m)) := by
      rw [List.forall₂_map_left_iff, List.forall₂_map_right_iff, List.forall₂_same]
      exact fun item _ => h.judge item
    rw [judge, judge]
    exact .array alike.name hitems _ _
  | _ => exact refused_agrees alike _

theorem judge_hash_agrees {fields fields' : List Filter}
    (h : List.Forall₂ (JudgesAlike ctx ctx' n m) fields fields') (value : Value)
    (merged : ∀ entries, fields ≠ [] → value = .hash entries →
      head.merged n entries = head'.merged m entries) :
    ((hash head fields).judge ctx n value).Agrees ((hash head' fields').judge ctx' m value) := by
  cases value with
  | hash entries =>
    by_cases hempty : fields = []
    · subst hempty
      obtain rfl : fields' = [] := List.forall₂_nil_left_iff.mp h
      exact leaf_agrees alike _
    · exact judge_fields_agrees alike.name alike.strip hempty h (merged entries hempty rfl)
  | _ => cases h <;> exact refused_agrees alike _

end Alike

end Filter

end Intake
