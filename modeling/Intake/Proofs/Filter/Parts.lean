import Intake.Filter.Cast
import Intake.Proofs.Filter.Tree

/-!
# The parts of a value

An array filter with an element filter has every item of an array judged by that filter; a hash
filter has, for each of its fields, the entry under the field's name judged by the field.  These are
the parts of the value, each with the step that leads to it.

`flatten_true_judge` and `flatten_false_judge` read a verdict off its parts: where the value itself
is not rejected, its issues are those of the parts, each put under the step of its part; but an array
that does not report by index tells only the first of them, as its own.
-/

namespace Intake

/-- A part of a value: the step to it, the filter that judges it, and what is there. -/
structure Part where
  step : Segment
  filter : Filter
  value : Value

/-- The issue of a part, put under its parent at a step. -/
def Issue.under (issue : Issue) (parent : String) (step : Segment) : Issue :=
  { issue with path := ⟨parent, step :: issue.path.segments⟩ }

@[simp] theorem Issue.under_segments (issue : Issue) (parent : String) (step : Segment) :
    (issue.under parent step).path.segments = step :: issue.path.segments := rfl

/-! ### Verdicts -/

namespace Verdict

theorem flatten_of_error {verdict : Verdict} {error : CastError}
    (h : verdict.error? = some error) (full : Bool) :
    verdict.flatten full = [.ofKind verdict.head (.ofCast error)] := by
  cases verdict with
  | leaf head result =>
    cases result with
    | ok value => exact absurd h (by simp [error?])
    | error e =>
      rw [error?, Option.some.injEq] at h
      rw [flatten, h, Verdict.head]
  | array head elements indexed => exact absurd h (by simp [error?])
  | hash head output fields => exact absurd h (by simp [error?])

theorem root_of_mem_flattenElements {full : Bool} {parent : String} {issue : Issue}
    (elements : List Verdict) :
    ∀ i, issue ∈ flattenElements full parent i elements → issue.path.root = parent := by
  induction elements with
  | nil => intro i h; exact absurd h (by simp [flattenElements])
  | cons verdict rest ih =>
    intro i h
    rw [flattenElements] at h
    rcases List.mem_append.mp h with hm | hr
    · obtain ⟨inner, _, rfl⟩ := List.mem_map.mp hm
      rfl
    · exact ih (i + 1) hr

theorem root_of_mem_flattenFields {full : Bool} {parent : String} {issue : Issue}
    (fields : List (String × Verdict)) (h : issue ∈ flattenFields full parent fields) :
    issue.path.root = parent := by
  induction fields with
  | nil => exact absurd h (by simp [flattenFields])
  | cons field rest ih =>
    rw [flattenFields] at h
    rcases List.mem_append.mp h with hm | hr
    · obtain ⟨inner, _, rfl⟩ := List.mem_map.mp hm
      rfl
    · exact ih hr

theorem root_of_mem_flatten {verdict : Verdict} {full : Bool} {issue : Issue}
    (h : issue ∈ verdict.flatten full) : issue.path.root = verdict.head.name := by
  cases verdict with
  | leaf head result =>
    cases result with
    | ok value => exact absurd h (by simp [flatten])
    | error e =>
      rw [flatten, List.mem_singleton] at h
      rw [h]
      rfl
  | array head elements indexed =>
    rw [flatten] at h
    split at h
    · exact absurd h (by simp)
    · next first rest hf =>
      split at h
      · rw [← hf] at h
        exact root_of_mem_flattenElements elements 0 h
      · rw [List.mem_singleton.mp h]
        rfl
  | hash head output fields => exact root_of_mem_flattenFields fields h

end Verdict

/-! ### How a value is judged -/

namespace Filter

/-- Whether a value is of the type that a container filter wants, or can be read by a scalar
filter. -/
def takes (ctx : Context) : Filter → Value → Bool
  | scalar _ rule, value => (rule.read ctx value).isSome
  | array _, value => value.asArray?.isSome
  | arrayOf _ _, value => value.asArray?.isSome
  | hash _ _, value => value.asHash?.isSome

def parts (drawn : Nat) : Filter → Value → List Part
  | arrayOf _ element, .array items => items.mapIdx fun i item => ⟨.index i, element, item⟩
  | hash head fields, .hash entries =>
    fields.map fun field => ⟨.key field.name, field, (head.merged drawn entries).value field.name⟩
  | _, _ => []

theorem judgeFields_eq_map (ctx : Context) (drawn : Nat) (entries : Entries Value)
    (fields : List Filter) : judgeFields ctx drawn entries fields =
      fields.map fun field => (field.name, field.judge ctx drawn (entries.value field.name)) := by
  induction fields with
  | nil => rfl
  | cons field rest ih => rw [judgeFields, ih, List.map_cons]

/-- Whether a filter is of an array that tells the first error among its elements as its own. -/
def promotes (ctx : Context) : Filter → Bool
  | arrayOf head _ => !head.indexed ctx
  | _ => false

/-- How a filter comes to its verdict. -/
inductive Judged (ctx : Context) (drawn : Nat) : Filter → Value → Prop where
  /-- The filter does not take the value. -/
  | refused {filter : Filter} {value : Value} (htakes : filter.takes ctx value = false)
      (hparts : filter.parts drawn value = [])
      (hjudge : filter.judge ctx drawn value = .leaf filter.head (filter.head.fallback value)) :
      Judged ctx drawn filter value
  /-- The value is cast as a whole. -/
  | whole {filter : Filter} {value : Value} (result : Value)
      (htakes : filter.takes ctx value = true) (hparts : filter.parts drawn value = [])
      (hjudge : filter.judge ctx drawn value = .leaf filter.head (.ok result)) :
      Judged ctx drawn filter value
  /-- An array is judged item by item. -/
  | items (head : Head) (element : Filter) (items : List Value) :
      Judged ctx drawn (arrayOf head element) (.array items)
  /-- A hash is judged field by field. -/
  | fields (head : Head) (field : Filter) (rest : List Filter) (entries : Entries Value) :
      Judged ctx drawn (hash head (field :: rest)) (.hash entries)

theorem judged (ctx : Context) (drawn : Nat) (filter : Filter) (value : Value) :
    Judged ctx drawn filter value := by
  cases filter with
  | scalar head rule =>
    cases hr : rule.read ctx value with
    | none =>
      refine .refused ?_ rfl ?_
      · rw [takes, hr, Option.isSome_none]
      · rw [judge, Head.castScalar, hr, Filter.head]
    | some result =>
      refine .whole result ?_ rfl ?_
      · rw [takes, hr, Option.isSome_some]
      · rw [judge, Head.castScalar, hr, Filter.head]
  | array head =>
    cases value with
    | array items => exact .whole (.array items) rfl rfl rfl
    | _ => exact .refused rfl rfl rfl
  | arrayOf head element =>
    cases value with
    | array items => exact .items head element items
    | _ => exact .refused rfl rfl rfl
  | hash head fields =>
    cases value with
    | hash entries =>
      cases fields with
      | nil => exact .whole (.hash entries) rfl rfl rfl
      | cons field rest => exact .fields head field rest entries
    | _ => exact .refused rfl rfl rfl

@[simp] theorem head_judge (ctx : Context) (drawn : Nat) (filter : Filter) (value : Value) :
    (filter.judge ctx drawn value).head = filter.head := by
  cases filter.judged ctx drawn value with
  | refused _ _ hjudge => rw [hjudge, Verdict.head]
  | whole _ _ _ hjudge => rw [hjudge, Verdict.head]
  | items => rfl
  | fields => rfl

/-- All issues of a filter's verdict are told under its name. -/
theorem root_of_mem_judge {ctx : Context} {drawn : Nat} {filter : Filter} {value : Value}
    {full : Bool} {issue : Issue} (h : issue ∈ (filter.judge ctx drawn value).flatten full) :
    issue.path.root = filter.name := by
  have hroot := Verdict.root_of_mem_flatten h
  rw [head_judge] at hroot
  exact hroot

/-- The error of a filter at a value itself, apart from its parts. -/
theorem error?_judge (ctx : Context) (drawn : Nat) (filter : Filter) (value : Value) :
    (filter.judge ctx drawn value).error? =
      if filter.takes ctx value then none
      else match filter.head.fallback value with
        | .ok _ => none
        | .error error => some error := by
  cases filter.judged ctx drawn value with
  | refused htakes _ hjudge =>
    rw [hjudge, htakes, if_neg Bool.false_ne_true]
    cases filter.head.fallback value with
    | ok result => rfl
    | error error => rfl
  | whole _ htakes _ hjudge => rw [hjudge, if_pos htakes, Verdict.error?]; simp
  | items => rfl
  | fields => rfl

theorem parts_of_error {ctx : Context} {drawn : Nat} {filter : Filter} {value : Value}
    {error : CastError} (h : (filter.judge ctx drawn value).error? = some error) :
    filter.parts drawn value = [] := by
  cases filter.judged ctx drawn value with
  | refused _ hparts _ => exact hparts
  | whole _ _ hparts _ => exact hparts
  | items => exact absurd h (by simp [judge, Verdict.error?])
  | fields => exact absurd h (by simp [judge, Verdict.error?])

/-! ### The steps to the parts -/

theorem mem_children_of_mem_parts {drawn : Nat} {filter : Filter} {value : Value} {part : Part}
    (h : part ∈ filter.parts drawn value) : part.filter ∈ filter.children := by
  unfold parts at h
  split at h
  · obtain ⟨i, hi, rfl⟩ := List.mem_mapIdx.mp h
    exact List.mem_singleton_self _
  · obtain ⟨field, hf, rfl⟩ := List.mem_map.mp h
    exact hf
  · exact absurd h (by simp)

/-- What holds of the parts of an array is what holds of its items. -/
theorem forall_parts_items {drawn : Nat} {p : Filter → Value → Prop} (head : Head) (element : Filter)
    (items : List Value) :
    (∀ part ∈ (arrayOf head element).parts drawn (.array items), p part.filter part.value) ↔
      ∀ item ∈ items, p element item := by
  constructor
  · intro h item hitem
    obtain ⟨i, hi, rfl⟩ := List.getElem_of_mem hitem
    exact h ⟨.index i, element, items[i]⟩ (List.mem_mapIdx.mpr ⟨i, hi, rfl⟩)
  · intro h part hp
    obtain ⟨i, hi, rfl⟩ := List.mem_mapIdx.mp hp
    exact h items[i] (List.getElem_mem hi)

/-- The order of the steps below a filter: by index, and as the fields are declared. -/
inductive StepBefore : Filter → Segment → Segment → Prop where
  | index {head : Head} {element : Filter} {i j : Nat} (h : i < j) :
      StepBefore (arrayOf head element) (.index i) (.index j)
  | key {head : Head} {fields : List Filter} {a b : String}
      (h : [a, b].Sublist (fields.map Filter.name)) :
      StepBefore (hash head fields) (.key a) (.key b)

theorem StepBefore.ne {filter : Filter} {s t : Segment} (h : filter.StepBefore s t)
    (hd : filter.Distinct) : s ≠ t := by
  cases h with
  | index h =>
    intro he
    rw [Segment.index.injEq] at he
    omega
  | key h =>
    have hne := List.pairwise_iff_forall_sublist.mp hd.names h
    intro he
    exact hne (Segment.key.inj he)

theorem parts_pairwise (drawn : Nat) (filter : Filter) (value : Value) :
    (filter.parts drawn value).Pairwise fun a b => filter.StepBefore a.step b.step := by
  unfold parts
  split
  · rw [List.pairwise_iff_getElem]
    intro i j hi hj hij
    rw [List.getElem_mapIdx, List.getElem_mapIdx]
    exact .index hij
  · rw [List.pairwise_map, List.pairwise_iff_forall_sublist]
    intro a b hab
    exact .key (hab.map Filter.name)
  · exact List.Pairwise.nil

/-! ### The issues of a verdict -/

/-- The issues of the parts of a value, each put under the step of its part. -/
def partIssues (ctx : Context) (drawn : Nat) (full : Bool) (filter : Filter) (value : Value) :
    Report :=
  (filter.parts drawn value).flatMap fun part =>
    ((part.filter.judge ctx drawn part.value).flatten full).map (·.under filter.name part.step)

theorem flattenElements_map (full : Bool) (parent : String) (verdict : Value → Verdict)
    (items : List Value) : ∀ i, Verdict.flattenElements full parent i (items.map verdict) =
      (items.mapIdx fun j item => (i + j, item)).flatMap fun p =>
        ((verdict p.2).flatten full).map (·.underIndex parent p.1) := by
  induction items with
  | nil => intro i; rfl
  | cons item rest ih =>
    intro i
    have hshift : (fun (j : Nat) (item : Value) => (i + (j + 1), item)) =
        fun j item => (i + 1 + j, item) := by
      funext j item
      rw [Nat.add_right_comm, Nat.add_assoc]
    rw [List.map_cons, Verdict.flattenElements, ih (i + 1), List.mapIdx_cons, List.flatMap_cons,
      hshift]
    rfl

theorem flattenElements_judge (ctx : Context) (drawn : Nat) (full : Bool) (head : Head)
    (element : Filter) (items : List Value) :
    Verdict.flattenElements full head.name 0 (items.map (element.judge ctx drawn)) =
      (arrayOf head element).partIssues ctx drawn full (.array items) := by
  have hparts : (arrayOf head element).parts drawn (.array items) =
      (items.mapIdx fun j item => (0 + j, item)).map fun p => ⟨.index p.1, element, p.2⟩ := by
    simp only [parts, List.mapIdx_eq_zipIdx_map, List.map_map, Nat.zero_add]
    rfl
  rw [flattenElements_map, partIssues, hparts, List.flatMap_map]
  rfl

theorem flattenFields_judge (ctx : Context) (drawn : Nat) (full : Bool) (parent : String)
    (entries : Entries Value) (fields : List Filter) :
    Verdict.flattenFields full parent (judgeFields ctx drawn entries fields) =
      fields.flatMap fun field =>
        ((field.judge ctx drawn (entries.value field.name)).flatten full).map
          (·.under parent (.key field.name)) := by
  induction fields with
  | nil => rfl
  | cons field rest ih =>
    rw [judgeFields, Verdict.flattenFields, ih, List.flatMap_cons]
    congr 1
    refine List.map_congr_left fun issue hi => ?_
    rw [Issue.underKey, Path.underKey, root_of_mem_judge hi]
    rfl

variable {ctx : Context} {drawn : Nat} {filter : Filter} {value : Value}

/-- In full, the issues of a verdict without an error of its own are those of the parts. -/
theorem flatten_true_judge (h : (filter.judge ctx drawn value).error? = none) :
    (filter.judge ctx drawn value).flatten true = filter.partIssues ctx drawn true value := by
  cases filter.judged ctx drawn value with
  | refused _ hparts hjudge =>
    rw [hjudge] at h ⊢
    rw [partIssues, hparts]
    cases hf : filter.head.fallback value with
    | ok result => rfl
    | error error => rw [hf] at h; exact absurd h (by simp [Verdict.error?])
  | whole _ _ hparts hjudge => rw [hjudge, partIssues, hparts]; rfl
  | items head element items =>
    rw [judge, Verdict.flatten, flattenElements_judge]
    cases (arrayOf head element).partIssues ctx drawn true (.array items) with
    | nil => rfl
    | cons first rest => rfl
  | fields head field rest entries =>
    rw [judge, Verdict.flatten, flattenFields_judge, partIssues, parts, List.flatMap_map]
    rfl

/-- Otherwise an array that promotes tells the first of them as its own. -/
theorem flatten_false_judge (h : (filter.judge ctx drawn value).error? = none) :
    (filter.judge ctx drawn value).flatten false =
      if filter.promotes ctx then
        ((filter.partIssues ctx drawn false value).head?.map fun first =>
          .ofKind filter.head first.kind).toList
      else filter.partIssues ctx drawn false value := by
  cases filter.judged ctx drawn value with
  | refused _ hparts hjudge =>
    rw [hjudge] at h ⊢
    rw [partIssues, hparts]
    cases hf : filter.head.fallback value with
    | ok result => simp [Verdict.flatten]
    | error error => rw [hf] at h; exact absurd h (by simp [Verdict.error?])
  | whole _ _ hparts hjudge => rw [hjudge, partIssues, hparts]; simp [Verdict.flatten]
  | items head element items =>
    rw [judge, Verdict.flatten, flattenElements_judge, promotes]
    cases (arrayOf head element).partIssues ctx drawn false (.array items) with
    | nil => simp
    | cons first rest => cases head.indexed ctx <;> rfl
  | fields head field rest entries =>
    have hpromotes : (hash head (field :: rest)).promotes ctx = false := rfl
    rw [judge, Verdict.flatten, flattenFields_judge, hpromotes, if_neg Bool.false_ne_true,
      partIssues, parts, List.flatMap_map]
    rfl

/-- In full, and where the filter does not promote, the issues are those of the parts. -/
theorem flatten_judge_eq_partIssues {full : Bool} (tells : full = true ∨ filter.promotes ctx = false)
    (h : (filter.judge ctx drawn value).error? = none) :
    (filter.judge ctx drawn value).flatten full = filter.partIssues ctx drawn full value := by
  cases full with
  | true => exact flatten_true_judge h
  | false =>
    have hpromotes := tells.resolve_left Bool.false_ne_true
    rw [flatten_false_judge h, hpromotes, if_neg Bool.false_ne_true]

end Filter

end Intake
