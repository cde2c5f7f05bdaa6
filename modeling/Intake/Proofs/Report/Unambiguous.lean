import Intake.Proofs.Filter.Built
import Intake.Proofs.Filter.Parts
import Intake.Proofs.Path
import Intake.Registry.Builtin
import Intake.Validation

/-!
# Reports without ambiguity

No path occurs twice in a report, whatever arrays tell of their elements
(`pairwise_segments_ne_flatten`).  A path is made of the names of filters.  Where these have no
separators, the texts of the paths are different, too, and a text finds the one issue that it is the
path of: `validate_unambiguous`.
-/

namespace Intake

namespace Filter

variable {ctx : Context} {drawn : Nat} {full : Bool} {filter : Filter} {value : Value}

/-- What a filter tells: nothing, one issue of its own, or the issues of the parts. -/
inductive Tells (ctx : Context) (drawn : Nat) (full : Bool) (filter : Filter) (value : Value) :
    Report → Prop where
  | nothing : Tells ctx drawn full filter value []
  | own (kind : IssueKind) : Tells ctx drawn full filter value [.ofKind filter.head kind]
  | parts : Tells ctx drawn full filter value (filter.partIssues ctx drawn full value)

theorem tells (ctx : Context) (drawn : Nat) (full : Bool) (filter : Filter) (value : Value) :
    Tells ctx drawn full filter value ((filter.judge ctx drawn value).flatten full) := by
  cases he : (filter.judge ctx drawn value).error? with
  | some error =>
    rw [Verdict.flatten_of_error he, head_judge]
    exact .own _
  | none =>
    by_cases hparts : full = true ∨ filter.promotes ctx = false
    · rw [flatten_judge_eq_partIssues hparts he]
      exact .parts
    · rw [not_or, Bool.not_eq_true, Bool.not_eq_false] at hparts
      obtain ⟨rfl, hpromotes⟩ := hparts
      rw [flatten_false_judge he, if_pos hpromotes]
      cases (filter.partIssues ctx drawn false value).head? with
      | none => exact .nothing
      | some first => exact .own first.kind

/-- **No path occurs twice in what a filter tells**, in full or not. -/
theorem pairwise_segments_ne_flatten (filter : Filter) : filter.Distinct → ∀ value : Value,
    ((filter.judge ctx drawn value).flatten full).Pairwise fun a b =>
      a.path.segments ≠ b.path.segments := by
  induction filter using Filter.ind with
  | step filter ih =>
    intro distinct value
    have htells := filter.tells ctx drawn full value
    generalize (filter.judge ctx drawn value).flatten full = report at htells ⊢
    cases htells with
    | nothing => exact List.Pairwise.nil
    | own kind => exact List.pairwise_singleton _ _
    | parts =>
      rw [partIssues, List.pairwise_flatMap]
      constructor
      · intro part hp
        have hc := mem_children_of_mem_parts hp
        rw [List.pairwise_map]
        refine (ih part.filter hc (distinct.child hc) part.value).imp fun hab => ?_
        exact fun hcons => hab (List.cons.inj hcons).2
      · refine (parts_pairwise drawn filter value).imp fun hstep a ha b hb => ?_
        obtain ⟨_, _, rfl⟩ := List.mem_map.mp ha
        obtain ⟨_, _, rfl⟩ := List.mem_map.mp hb
        exact fun hcons => hstep.ne distinct (List.cons.inj hcons).1

/-- A part that is reached by a key is a field of that name. -/
theorem name_of_step_eq_key {part : Part} (hp : part ∈ filter.parts drawn value) {key : String}
    (hstep : part.step = .key key) : part.filter.name = key := by
  unfold parts at hp
  split at hp
  · obtain ⟨i, _, rfl⟩ := List.mem_mapIdx.mp hp
    exact absurd hstep (by simp)
  · obtain ⟨field, _, rfl⟩ := List.mem_map.mp hp
    exact Segment.key.inj hstep
  · exact absurd hp List.not_mem_nil

/-- Paths are made of the names of filters. -/
theorem plain_of_mem_flatten (filter : Filter) :
    (∀ node ∈ filter.nodes, Unseparated node.name) → ∀ value : Value,
      ∀ issue ∈ (filter.judge ctx drawn value).flatten full, issue.path.Plain := by
  induction filter using Filter.ind with
  | step filter ih =>
    intro names value issue hi
    have hself : Unseparated filter.name := names filter filter.mem_nodes_self
    have htells := filter.tells ctx drawn full value
    generalize (filter.judge ctx drawn value).flatten full = report at htells hi
    cases htells with
    | nothing => exact absurd hi List.not_mem_nil
    | own kind =>
      rw [List.mem_singleton.mp hi]
      exact ⟨hself, fun key hkey => absurd hkey List.not_mem_nil⟩
    | parts =>
      rw [partIssues, List.mem_flatMap] at hi
      obtain ⟨part, hp, hm⟩ := hi
      obtain ⟨inner, hinner, rfl⟩ := List.mem_map.mp hm
      have hbelow : ∀ node ∈ part.filter.nodes, Unseparated node.name := fun node hn =>
        names node (mem_nodes_of_child (mem_children_of_mem_parts hp) hn)
      refine ⟨hself, fun key hkey => ?_⟩
      rcases List.mem_cons.mp hkey with hstep | hm
      · exact name_of_step_eq_key hp hstep.symm ▸ hbelow _ part.filter.mem_nodes_self
      · have hc := mem_children_of_mem_parts hp
        exact (ih part.filter hc hbelow part.value inner hinner).keys key hm

end Filter

/-- Where no two paths have the same text, the text of a path finds its issue and no other. -/
theorem Report.atPath_text {report : Report}
    (distinct : (report.map fun issue => issue.path.text).Nodup) {issue : Issue}
    (h : issue ∈ report) : report.atPath issue.path.text = [issue] := by
  obtain ⟨before, after, rfl⟩ := List.append_of_mem h
  rw [List.map_append, List.map_cons, List.nodup_middle, List.nodup_cons, ← List.map_append]
    at distinct
  have hne : ∀ other ∈ before ++ after, ¬(other.path.text == issue.path.text) = true := by
    intro other ho he
    exact distinct.1 (List.mem_map.mpr ⟨other, ho, eq_of_beq he⟩)
  rw [atPath, List.filter_append, List.filter_cons, if_pos (beq_self_eq_true issue.path.text),
    List.filter_eq_nil_iff.mpr fun other ho => hne other (List.mem_append_left _ ho),
    List.filter_eq_nil_iff.mpr fun other ho => hne other (List.mem_append_right _ ho),
    List.nil_append]

namespace FilterSet

variable {set : FilterSet}

/-- No path occurs twice in a report. -/
theorem nodup_path_validate (distinct : ∀ filter ∈ set.filters, filter.Distinct) (ctx : Context)
    (tally : Tally) (inputs : Entries Value) :
    ((set.validate ctx tally inputs).map Issue.path).Nodup := by
  rw [List.Nodup, List.pairwise_map, validate, List.pairwise_flatMap]
  constructor
  · intro filter hf
    refine (Filter.pairwise_segments_ne_flatten filter (distinct filter hf) _).imp fun hab he => ?_
    exact hab (congrArg Path.segments he)
  · refine (List.pairwise_map.mp set.nodup).imp fun hnames a ha b hb he => hnames ?_
    rw [← Filter.root_of_mem_judge ha, he, Filter.root_of_mem_judge hb]

/-- Where no name in the set has a separator, no path in a report has a name with one. -/
theorem plain_of_mem_validate
    (names : ∀ filter ∈ set.filters, ∀ node ∈ filter.nodes, Unseparated node.name) (ctx : Context)
    (tally : Tally) (inputs : Entries Value) :
    ∀ issue ∈ set.validate ctx tally inputs, issue.path.Plain := by
  intro issue hi
  obtain ⟨filter, hf, hm⟩ := List.mem_flatMap.mp hi
  exact filter.plain_of_mem_flatten (names filter hf) _ issue hm

/-- **Texts of paths are not ambiguous** where names have no separators: different paths have
different texts, no text occurs twice in a report, and each finds its issue. -/
theorem validate_unambiguous :
    (∀ p q : Path, p.Plain → q.Plain → p.text = q.text → p = q) ∧
    ∀ {registry : Registry} {declarations : List Declaration} {set : FilterSet},
      build registry declarations = .ok set →
      (∀ filter ∈ set.filters, ∀ node ∈ filter.nodes, Unseparated node.name) →
      ∀ (ctx : Context) (tally : Tally) (inputs : Entries Value),
        ((set.validate ctx tally inputs).map fun issue => issue.path.text).Nodup ∧
        ∀ issue ∈ set.validate ctx tally inputs,
          (set.validate ctx tally inputs).atPath issue.path.text = [issue] := by
  refine ⟨fun p q => Path.text_injective, ?_⟩
  intro registry declarations set built names ctx tally inputs
  have hplain := plain_of_mem_validate names ctx tally inputs
  have hpaths := nodup_path_validate (distinct_of_build built) ctx tally inputs
  have htexts : ((set.validate ctx tally inputs).map fun issue => issue.path.text).Nodup := by
    rw [List.Nodup, List.pairwise_map] at hpaths ⊢
    refine hpaths.imp_of_mem fun ha hb hne he => hne ?_
    exact Path.text_injective (hplain _ ha) (hplain _ hb) he
  exact ⟨htexts, fun issue => Report.atPath_text htexts⟩

/-- Rows with a field without a name and one whose name looks like the end of an index. -/
def rowsDeclarations : List Declaration :=
  [⟨"array", some "rows", {},
    [⟨"hash", none, {}, [⟨"integer", some "", {}, []⟩, ⟨"integer", some "1]", {}, []⟩]⟩]⟩]

def rowsFilters : FilterSet where
  filters :=
    [.arrayOf ⟨"rows", "array", {}⟩
      (.hash ⟨"rows", "hash", {}⟩
        [.scalar ⟨"", "integer", {}⟩ .integer, .scalar ⟨"1]", "integer", {}⟩ .integer])]
  nodup := by decide

def rowsInputs : Entries Value :=
  [("rows", .array [.hash [], .hash []])]

theorem validate_unambiguous_rows :
    build .builtin rowsDeclarations = .ok rowsFilters ∧
    (rowsFilters.validate ⟨.indexQualified, none⟩ [] rowsInputs).map (·.path.text) =
      ["rows[0].", "rows[0].1]", "rows[1].", "rows[1].1]"] ∧
    (rowsFilters.validate ⟨.indexQualified, none⟩ [] rowsInputs).atPath "rows[0].1]" =
      [⟨⟨"rows", [.index 0, .key "1]"]⟩, .missing, [], some "1]"⟩] := by
  have built : build .builtin rowsDeclarations = .ok rowsFilters := by rfl
  have names : ∀ filter ∈ rowsFilters.filters, ∀ node ∈ filter.nodes, Unseparated node.name := by
    decide
  have hreport := (validate_unambiguous.2 built names ⟨.indexQualified, none⟩ [] rowsInputs).2
  refine ⟨built, by rfl, ?_⟩
  exact hreport ⟨⟨"rows", [.index 0, .key "1]"]⟩, .missing, [], some "1]"⟩ (by decide)

end FilterSet

end Intake
