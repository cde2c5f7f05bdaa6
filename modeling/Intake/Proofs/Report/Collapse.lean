import Intake.Proofs.Filter.Built
import Intake.Proofs.Report.Policy
import Intake.Registry.Builtin

/-!
# Promotion as a collapse

A report by the policy is the report in full with the paths cut: `issues_eq_collapse`.  A path is cut
before the first index that belongs to an array that promotes.  Of the issues that are cut at one
array only the first is kept, and it is told as the array's own.
-/

namespace Intake

/-- Of elements that are alike only the first is kept. -/
def keepFirst {α : Type} (alike : α → α → Bool) : List α → List α
  | [] => []
  | a :: rest => a :: (keepFirst alike rest).filter fun b => !alike a b

section keepFirst

variable {α β : Type} {alike : α → α → Bool}

theorem mem_of_mem_keepFirst {a : α} (l : List α) (h : a ∈ keepFirst alike l) : a ∈ l := by
  induction l with
  | nil => exact h
  | cons b rest ih =>
    rw [keepFirst] at h
    rcases List.mem_cons.mp h with he | hm
    · exact he ▸ List.mem_cons_self
    · exact List.mem_cons_of_mem _ (ih (List.mem_filter.mp hm).1)

theorem keepFirst_append {l r : List α} (h : ∀ a ∈ l, ∀ b ∈ r, alike a b = false) :
    keepFirst alike (l ++ r) = keepFirst alike l ++ keepFirst alike r := by
  induction l with
  | nil => rfl
  | cons a rest ih =>
    have hright : (keepFirst alike r).filter (fun b => !alike a b) = keepFirst alike r := by
      refine List.filter_eq_self.mpr fun b hb => ?_
      rw [h a List.mem_cons_self b (mem_of_mem_keepFirst r hb), Bool.not_false]
    rw [List.cons_append, keepFirst, ih fun b hb => h b (List.mem_cons_of_mem _ hb),
      List.filter_append, hright, keepFirst, List.cons_append]

theorem keepFirst_flatMap {f : β → List α} (parts : List β)
    (h : parts.Pairwise fun p q => ∀ a ∈ f p, ∀ b ∈ f q, alike a b = false) :
    keepFirst alike (parts.flatMap f) = parts.flatMap fun p => keepFirst alike (f p) := by
  induction parts with
  | nil => rfl
  | cons p rest ih =>
    obtain ⟨hp, hrest⟩ := List.pairwise_cons.mp h
    rw [List.flatMap_cons, List.flatMap_cons, keepFirst_append, ih hrest]
    intro a ha b hb
    obtain ⟨q, hq, hbq⟩ := List.mem_flatMap.mp hb
    exact hp q hq a ha b hbq

theorem keepFirst_map {alike' : β → β → Bool} {f : α → β}
    (h : ∀ a b, alike' (f a) (f b) = alike a b) (l : List α) :
    keepFirst alike' (l.map f) = (keepFirst alike l).map f := by
  induction l with
  | nil => rfl
  | cons a rest ih =>
    have hfilter : ((fun b => !alike' (f a) b) ∘ f) = fun b => !alike a b := by
      funext b
      rw [Function.comp_apply, h]
    rw [List.map_cons, keepFirst, ih, List.filter_map, hfilter, keepFirst, List.map_cons]

theorem keepFirst_of_alike (l : List α) (h : ∀ a ∈ l, ∀ b ∈ l, alike a b = true) :
    keepFirst alike l = l.head?.toList := by
  cases l with
  | nil => rfl
  | cons a rest =>
    have hnone : (keepFirst alike rest).filter (fun b => !alike a b) = [] := by
      refine List.filter_eq_nil_iff.mpr fun b hb => ?_
      have hab := h a List.mem_cons_self b (List.mem_cons_of_mem _ (mem_of_mem_keepFirst rest hb))
      rw [hab, Bool.not_true]
      exact Bool.false_ne_true
    rw [keepFirst, hnone]
    rfl

end keepFirst

namespace Filter

def child? : Filter → Segment → Option Filter
  | arrayOf _ element, .index _ => some element
  | hash _ fields, .key k => fields.find? fun field => field.name == k
  | _, _ => none

/-- Where a path is cut: what is kept of it, and the array that it is cut at. -/
def cut (ctx : Context) : Filter → List Segment → Option (List Segment × Head)
  | _, [] => none
  | filter, step :: rest =>
    if filter.promotes ctx then some ([], filter.head)
    else (filter.child? step).bind fun child =>
      (child.cut ctx rest).map fun (kept, head) => (step :: kept, head)

def cutAlike (ctx : Context) (filter : Filter) (a b : Issue) : Bool :=
  match filter.cut ctx a.path.segments, filter.cut ctx b.path.segments with
  | some (p, _), some (q, _) => p == q
  | _, _ => false

/-- An issue whose path is cut is told by the array, as an issue of the same kind. -/
def cutIssue (ctx : Context) (filter : Filter) (issue : Issue) : Issue :=
  match filter.cut ctx issue.path.segments with
  | none => issue
  | some (kept, head) =>
    { path := ⟨issue.path.root, kept⟩
      kind := issue.kind
      options := if issue.kind = .invalidType then [("type", head.slug)] else []
      filter := some head.name }

/-- The report that arrays make of a report in full. -/
def collapse (ctx : Context) (filter : Filter) (report : Report) : Report :=
  (keepFirst (filter.cutAlike ctx) report).map (filter.cutIssue ctx)

variable {ctx : Context} {drawn : Nat} {filter : Filter} {value : Value}

theorem child?_of_mem_parts {part : Part} (hd : filter.Distinct)
    (hp : part ∈ filter.parts drawn value) : filter.child? part.step = some part.filter := by
  unfold parts at hp
  split at hp
  · obtain ⟨i, hi, rfl⟩ := List.mem_mapIdx.mp hp
    rfl
  · next head fields entries =>
    obtain ⟨field, hf, rfl⟩ := List.mem_map.mp hp
    rw [child?]
    cases hfind : fields.find? fun other => other.name == field.name with
    | none => exact absurd (List.find?_eq_none.mp hfind field hf) (by simp)
    | some other =>
      have hname : other.name = field.name := beq_iff_eq.mp (List.find?_some hfind :)
      exact congrArg some (hd.eq_of_name_eq (List.mem_of_find?_eq_some hfind) hf hname)
  · exact absurd hp (by simp)

/-- Below an array that promotes, every path is cut at the array. -/
theorem cut_of_promotes (h : filter.promotes ctx = true) (step : Segment) (path : List Segment) :
    filter.cut ctx (step :: path) = some ([], filter.head) := by
  rw [cut, if_pos h]

/-- Elsewhere a path is cut where the rest of it is cut. -/
theorem cut_of_not_promotes {part : Part} (h : filter.promotes ctx = false) (hd : filter.Distinct)
    (hp : part ∈ filter.parts drawn value) (path : List Segment) :
    filter.cut ctx (part.step :: path) =
      (part.filter.cut ctx path).map fun (kept, head) => (part.step :: kept, head) := by
  rw [cut, h, if_neg Bool.false_ne_true, child?_of_mem_parts hd hp, Option.bind_some]

theorem cutIssue_under {part : Part} (h : filter.promotes ctx = false) (hd : filter.Distinct)
    (hp : part ∈ filter.parts drawn value) (issue : Issue) :
    filter.cutIssue ctx (issue.under filter.name part.step) =
      (part.filter.cutIssue ctx issue).under filter.name part.step := by
  rw [cutIssue, cutIssue, Issue.under_segments, cut_of_not_promotes h hd hp]
  cases part.filter.cut ctx issue.path.segments with
  | none => rfl
  | some kept => rfl

theorem cutAlike_under {part : Part} (h : filter.promotes ctx = false) (hd : filter.Distinct)
    (hp : part ∈ filter.parts drawn value) (a b : Issue) :
    filter.cutAlike ctx (a.under filter.name part.step) (b.under filter.name part.step) =
      part.filter.cutAlike ctx a b := by
  rw [cutAlike, cutAlike, Issue.under_segments, Issue.under_segments, cut_of_not_promotes h hd hp,
    cut_of_not_promotes h hd hp]
  cases part.filter.cut ctx a.path.segments with
  | none => rfl
  | some p =>
    cases part.filter.cut ctx b.path.segments with
    | none => rfl
    | some q => simp

theorem cutAlike_of_step_ne {p q : Part} (h : filter.promotes ctx = false) (hd : filter.Distinct)
    (hp : p ∈ filter.parts drawn value) (hq : q ∈ filter.parts drawn value)
    (hpq : p.step ≠ q.step) (a b : Issue) :
    filter.cutAlike ctx (a.under filter.name p.step) (b.under filter.name q.step) = false := by
  rw [cutAlike, Issue.under_segments, Issue.under_segments, cut_of_not_promotes h hd hp,
    cut_of_not_promotes h hd hq]
  cases p.filter.cut ctx a.path.segments with
  | none => rfl
  | some kept =>
    cases q.filter.cut ctx b.path.segments with
    | none => rfl
    | some kept' => simp [hpq]

/-- An array that promotes makes one issue of those of its parts, of the kind of the first. -/
theorem collapse_partIssues_of_promotes (h : filter.promotes ctx = true) :
    filter.collapse ctx (filter.partIssues ctx drawn true value) =
      ((filter.partIssues ctx drawn true value).head?.map fun first =>
        .ofKind filter.head first.kind).toList := by
  have hunder : ∀ issue ∈ filter.partIssues ctx drawn true value,
      ∃ inner step, issue = Issue.under inner filter.name step := by
    intro issue hi
    obtain ⟨part, _, hm⟩ := List.mem_flatMap.mp hi
    obtain ⟨inner, _, rfl⟩ := List.mem_map.mp hm
    exact ⟨inner, part.step, rfl⟩
  rw [collapse, keepFirst_of_alike]
  · cases hr : filter.partIssues ctx drawn true value with
    | nil => rfl
    | cons first rest =>
      rw [hr] at hunder
      obtain ⟨inner, step, rfl⟩ := hunder first List.mem_cons_self
      rw [List.head?_cons, Option.toList_some, List.map_singleton, Option.map_some,
        Option.toList_some, cutIssue, Issue.under_segments, cut_of_promotes h]
      rfl
  · intro a ha b hb
    obtain ⟨a', s, rfl⟩ := hunder a ha
    obtain ⟨b', t, rfl⟩ := hunder b hb
    rw [cutAlike, Issue.under_segments, Issue.under_segments, cut_of_promotes h, cut_of_promotes h]
    rfl

/-- Elsewhere the issues of every part are collapsed for themselves. -/
theorem collapse_partIssues_of_not_promotes (h : filter.promotes ctx = false)
    (hd : filter.Distinct) :
    filter.collapse ctx (filter.partIssues ctx drawn true value) =
      (filter.parts drawn value).flatMap fun part =>
        (part.filter.collapse ctx ((part.filter.judge ctx drawn part.value).flatten true)).map
          (·.under filter.name part.step) := by
  have hapart : (filter.parts drawn value).Pairwise fun p q =>
      ∀ a ∈ ((p.filter.judge ctx drawn p.value).flatten true).map (·.under filter.name p.step),
      ∀ b ∈ ((q.filter.judge ctx drawn q.value).flatten true).map (·.under filter.name q.step),
        filter.cutAlike ctx a b = false := by
    refine (parts_pairwise drawn filter value).imp_of_mem fun hp hq hpq a ha b hb => ?_
    obtain ⟨a', _, rfl⟩ := List.mem_map.mp ha
    obtain ⟨b', _, rfl⟩ := List.mem_map.mp hb
    exact cutAlike_of_step_ne h hd hp hq (hpq.ne hd) a' b'
  rw [collapse, partIssues, keepFirst_flatMap _ hapart, List.map_flatMap]
  refine List.flatMap_congr fun part hp => ?_
  rw [keepFirst_map (cutAlike_under h hd hp), collapse, List.map_map, List.map_map]
  exact List.map_congr_left fun issue _ => cutIssue_under h hd hp issue

theorem flatten_false_eq_collapse (filter : Filter) : filter.Distinct → ∀ value : Value,
    (filter.judge ctx drawn value).flatten false =
      filter.collapse ctx ((filter.judge ctx drawn value).flatten true) := by
  induction filter using Filter.ind with
  | step filter ih =>
    intro hd value
    cases he : (filter.judge ctx drawn value).error? with
    | some error =>
      rw [Verdict.flatten_of_error he, Verdict.flatten_of_error he]
      rfl
    | none =>
      rw [flatten_false_judge he, flatten_true_judge he]
      cases h : filter.promotes ctx with
      | true =>
        have hkind : (filter.partIssues ctx drawn false value).head?.map Issue.kind =
            (filter.partIssues ctx drawn true value).head?.map Issue.kind :=
          head?_kind_partIssues fun part _ => head?_kind_flatten part.filter part.value
        rw [if_pos rfl, collapse_partIssues_of_promotes h]
        have hmap : ∀ o : Option Issue, (o.map fun first => Issue.ofKind filter.head first.kind) =
            (o.map Issue.kind).map (Issue.ofKind filter.head) := by
          intro o
          rw [Option.map_map]
          rfl
        rw [hmap, hmap, hkind]
      | false =>
        rw [if_neg Bool.false_ne_true, collapse_partIssues_of_not_promotes h hd, partIssues]
        refine List.flatMap_congr fun part hp => ?_
        have hc := mem_children_of_mem_parts hp
        rw [ih part.filter hc (hd.child hc)]

/-- **What is reported is the collapse of the report in full.** -/
theorem issues_eq_collapse {registry : Registry} {declaration : Declaration} {name : String}
    (built : declaration.buildAs registry name = .ok filter) (ctx : Context) (drawn : Nat)
    (value : Value) :
    (filter.judge ctx drawn value).issues =
      filter.collapse ctx ((filter.judge ctx drawn value).flatten true) :=
  flatten_false_eq_collapse filter (Declaration.distinct_of_buildAs built) value

/-- A table that reports by row, with rows that do as the policy says. -/
def tableDeclaration : Declaration :=
  ⟨"array", some "table", { indexErrors := some true },
    [⟨"array", none, {}, [⟨"integer", none, {}, []⟩]⟩]⟩

def tableFilter : Filter :=
  .arrayOf ⟨"table", "array", { indexErrors := some true }⟩
    (.arrayOf ⟨"table", "array", {}⟩ (.scalar ⟨"table", "integer", {}⟩ .integer))

/-- A table with two faults in the first row and a row missing. -/
def tableValue : Value :=
  .array [.array [.string "a", .nil], .array [.integer 1], .nil]

theorem issues_eq_collapse_table :
    tableDeclaration.buildAs Registry.builtin "table" = .ok tableFilter ∧
    ((tableFilter.judge {} 0 tableValue).flatten true).length = 3 ∧
    tableFilter.collapse {} ((tableFilter.judge {} 0 tableValue).flatten true) =
      [⟨⟨"table", [.index 0]⟩, .invalidType, [("type", "array")], some "table"⟩,
        ⟨⟨"table", [.index 2]⟩, .missing, [], some "table"⟩] := by
  have built : tableDeclaration.buildAs Registry.builtin "table" = .ok tableFilter := by rfl
  refine ⟨built, by decide, ?_⟩
  rw [← issues_eq_collapse built {} 0 tableValue]
  decide

end Filter

end Intake
