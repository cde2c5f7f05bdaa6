import Intake.Proofs.Filter.Built
import Intake.Proofs.Filter.Parts
import Intake.Registry.Builtin

/-!
# Shapes of built filters

`Shaped` says which tree of filters comes of a tree of declarations, a rule for each kind: slugs and
options are kept, the element of an array goes by the name of the array, the fields of a hash are
those declared, in order and with different names, and nothing below the top has a default.

Paths rest on the names alone.  Where an array and its element have one name (`WellNamed`), a path
that is put under an index or a key can be taken from there again (`Path.below?`), so what is told of
the parts of a value can be read off what is told of the value: `filterMap_below?_flatten`.
-/

namespace Intake

/-- A filter that goes by a name has the shape of a declaration. -/
inductive Shaped (registry : Registry) : String → Declaration → Filter → Prop where
  | scalar {name slug : String} {own : Option String} {options : Options}
      {children : List Declaration} {rule : Scalar}
      (kind : ∃ make, registry.kind slug = .ok (.scalar make)) :
      Shaped registry name ⟨slug, own, options, children⟩ (.scalar ⟨name, slug, options⟩ rule)
  | array {name slug : String} {own : Option String} {options : Options}
      (kind : registry.kind slug = .ok .array) :
      Shaped registry name ⟨slug, own, options, []⟩ (.array ⟨name, slug, options⟩)
  /-- The element goes by the name of the array. -/
  | arrayOf {name slug : String} {own : Option String} {options : Options} {nested : Declaration}
      {element : Filter} (kind : registry.kind slug = .ok .array) (unnamed : nested.name = none)
      (default : nested.options.default = none) (shaped : Shaped registry name nested element) :
      Shaped registry name ⟨slug, own, options, [nested]⟩ (.arrayOf ⟨name, slug, options⟩ element)
  /-- The fields go by names of their own. -/
  | hash {name slug : String} {own : Option String} {options : Options}
      {children : List Declaration} {fields : List Filter} (kind : registry.kind slug = .ok .hash)
      (names : children.map Declaration.name = fields.map fun field => some field.name)
      (nodup : (fields.map Filter.name).Nodup)
      (default : ∀ nested ∈ children, nested.options.default = none)
      (shaped : List.Forall₂ (fun nested field => Shaped registry field.name nested field)
        children fields) :
      Shaped registry name ⟨slug, own, options, children⟩ (.hash ⟨name, slug, options⟩ fields)

namespace Declaration

variable {registry : Registry} {name : String} {declaration : Declaration} {filter : Filter}

/-- A built filter has the shape of its declaration. -/
theorem shaped_of_buildAs : ∀ {filter : Filter} {name : String} {declaration : Declaration},
    declaration.buildAs registry name = .ok filter → Shaped registry name declaration filter := by
  intro filter
  induction filter using Filter.ind with
  | step filter ih =>
    intro name declaration h
    cases built_of_buildAs h with
    | scalar kind made => exact .scalar ⟨_, kind⟩
    | array kind => exact .array kind
    | arrayOf kind unnamed default build =>
      exact .arrayOf kind unnamed default (ih _ (List.mem_singleton_self _) build)
    | hash kind build names =>
      refine .hash kind ?_ names ?_ ?_
      · rw [← List.forall₂_eq_eq_eq, List.forall₂_map_left_iff, List.forall₂_map_right_iff]
        exact build.imp fun _ _ hb => hb.name
      · intro nested hn
        obtain ⟨field, _, hb⟩ := exists_mem_of_forall₂ build.flip hn
        exact hb.default
      · refine List.forall₂_iff_zip.mpr ⟨build.length_eq, fun hz => ?_⟩
        exact ih _ (List.of_mem_zip hz).2 (List.forall₂_zip build hz).build

/-- Every filter of a built tree is built itself, under its own name. -/
theorem exists_buildAs_of_mem_nodes :
    ∀ {filter : Filter} {name : String} {declaration : Declaration},
      declaration.buildAs registry name = .ok filter → ∀ node ∈ filter.nodes,
        ∃ nested : Declaration, nested.buildAs registry node.name = .ok node := by
  intro filter
  induction filter using Filter.ind with
  | step filter ih =>
    intro name declaration h node hn
    rcases Filter.mem_nodes.mp hn with rfl | ⟨child, hc, hm⟩
    · exact ⟨declaration, (name_of_buildAs h).symm ▸ h⟩
    · obtain ⟨nested, _, hnested⟩ := (built_of_buildAs h).children.2 child hc
      exact ih child hc hnested node hm

end Declaration

/-! ### Names -/

/-- The filters nested in one are named as is asked: the element of an array goes by the name of the
array, and no two fields of a hash have the same name. -/
def Filter.WellNamed : Filter → Prop
  | .scalar _ _ => True
  | .array _ => True
  | .arrayOf head element => element.name = head.name
  | .hash _ fields => (fields.map Filter.name).Nodup

theorem Declaration.wellNamed_of_buildAs {registry : Registry} {name : String}
    {declaration : Declaration} {filter : Filter}
    (h : declaration.buildAs registry name = .ok filter) : filter.WellNamed := by
  cases built_of_buildAs h with
  | scalar => trivial
  | array => trivial
  | arrayOf kind unnamed default build => exact name_of_buildAs build
  | hash kind build names => exact names

/-! ### Paths taken from below -/

/-- The path as it was before it was put under an index or a key. -/
def Path.below? (path : Path) : Option Path :=
  match path.segments with
  | [] => none
  | .index _ :: rest => some ⟨path.root, rest⟩
  | .key key :: rest => some ⟨key, rest⟩

def Issue.below? (issue : Issue) : Option Issue :=
  issue.path.below?.map fun path => { issue with path }

namespace Filter

variable {ctx : Context} {drawn : Nat} {full : Bool} {filter : Filter} {value : Value}

/-- Where names are as asked, nothing of an issue is lost under the step of its part. -/
theorem below?_under (named : filter.WellNamed) {part : Part} (hp : part ∈ filter.parts drawn value)
    {issue : Issue} (hi : issue ∈ (part.filter.judge ctx drawn part.value).flatten full) :
    (issue.under filter.name part.step).below? = some issue := by
  have hroot : issue.path.root = part.filter.name := root_of_mem_judge hi
  unfold parts at hp
  split at hp
  · next head element items =>
    obtain ⟨i, _, rfl⟩ := List.mem_mapIdx.mp hp
    -- the root that is overwritten is the name of the array already
    have hname : issue.path.root = head.name := hroot.trans named
    have hpath : (issue.under head.name (.index i)).path.below? = some issue.path := by
      rw [Issue.under, Path.below?, ← hname]
    rw [Issue.below?]
    exact congrArg (Option.map fun path => { issue with path }) hpath
  · next head fields entries =>
    obtain ⟨field, _, rfl⟩ := List.mem_map.mp hp
    have hpath : (issue.under head.name (.key field.name)).path.below? = some issue.path := by
      rw [Issue.under, Path.below?, ← hroot]
    rw [Issue.below?]
    exact congrArg (Option.map fun path => { issue with path }) hpath
  · exact absurd hp (by simp)

/-- **With the first step taken off, what is told of a value is what is told of its parts**, in
order, unless the filter tells only the first of it. -/
theorem filterMap_below?_flatten (named : filter.WellNamed) (ctx : Context) (drawn : Nat)
    (value : Value) {full : Bool} (tells : full = true ∨ filter.promotes ctx = false) :
    ((filter.judge ctx drawn value).flatten full).filterMap Issue.below? =
      (filter.parts drawn value).flatMap fun part =>
        (part.filter.judge ctx drawn part.value).flatten full := by
  cases he : (filter.judge ctx drawn value).error? with
  | some error =>
    rw [Verdict.flatten_of_error he, parts_of_error he]
    rfl
  | none =>
    rw [flatten_judge_eq_partIssues tells he, partIssues, List.filterMap_flatMap]
    refine List.flatMap_congr fun part hp => ?_
    have hbelow : ∀ issue ∈ (part.filter.judge ctx drawn part.value).flatten full,
        (issue.under filter.name part.step).below? = some issue :=
      fun issue hi => below?_under named hp hi
    rw [List.filterMap_map]
    exact (List.filterMap_congr hbelow).trans List.filterMap_some

end Filter

namespace FilterSet

open Declaration

/-- **What building keeps.**  The filters are those declared, in order and with different names, each
in the shape of its declaration, and none below the top is optional.  Every filter of a tree tells
its issues under its own name, so that no step above it loses any of them. -/
theorem shaped_of_build {registry : Registry} {declarations : List Declaration} {set : FilterSet}
    (built : build registry declarations = .ok set) :
    List.Forall₂ (fun declaration filter => declaration.name = some filter.name ∧
      Shaped registry filter.name declaration filter) declarations set.filters ∧
    set.names.Nodup ∧
    ∀ filter ∈ set.filters,
      (∀ child ∈ filter.children, ∀ node ∈ child.nodes, node.isOptional = false) ∧
      ∀ node ∈ filter.nodes, node.WellNamed ∧ ∀ ctx drawn full value,
        (∀ issue ∈ (node.judge ctx drawn value).flatten full, issue.path.root = node.name) ∧
        (full = true ∨ node.promotes ctx = false →
          ((node.judge ctx drawn value).flatten full).filterMap Issue.below? =
            (node.parts drawn value).flatMap fun part =>
              (part.filter.judge ctx drawn part.value).flatten full) := by
  have hbuilt := build_eq_ok_iff.mp built
  refine ⟨hbuilt.imp fun declaration filter h => ?_, set.nodup, fun filter hf => ?_⟩
  · obtain ⟨hname, hbuild⟩ := Declaration.build_eq_ok_iff.mp h
    exact ⟨hname, shaped_of_buildAs hbuild⟩
  · obtain ⟨declaration, _, h⟩ := exists_mem_of_forall₂ hbuilt hf
    obtain ⟨_, hbuild⟩ := Declaration.build_eq_ok_iff.mp h
    refine ⟨fun child hc node hn => ?_, fun node hn => ?_⟩
    · rw [Filter.isOptional, Options.isOptional, default_of_nested hbuild child hc node hn,
        Option.isSome_none]
    · obtain ⟨nested, hnested⟩ := exists_buildAs_of_mem_nodes hbuild node hn
      have hnamed : node.WellNamed := wellNamed_of_buildAs hnested
      refine ⟨hnamed, fun ctx drawn full value => ⟨fun issue => Filter.root_of_mem_judge, ?_⟩⟩
      exact Filter.filterMap_below?_flatten hnamed ctx drawn value

/-- A kind of the host, which reads texts of one character. -/
def readMark (_ : Context) (value : Value) : Option Value :=
  value.asText?.bind fun text => if text.length = 1 then some (.string text) else none

def markRegistry : Registry :=
  Registry.builtin.register "mark" (.scalar fun _ => .ok (.host readMark))

/-- A grid, given row by row, and a title. -/
def gridDeclarations : List Declaration :=
  [⟨"array", some "grid", {},
      [⟨"array", none, {}, [⟨"hash", none, {}, [⟨"mark", some "mark", {}, []⟩]⟩]⟩]⟩,
    ⟨"string", some "title", { default := some (.fixed (.string "plan")) }, []⟩]

def gridFilter : Filter :=
  .arrayOf ⟨"grid", "array", {}⟩
    (.arrayOf ⟨"grid", "array", {}⟩
      (.hash ⟨"grid", "hash", {}⟩ [.scalar ⟨"mark", "mark", {}⟩ (.host readMark)]))

def gridFilters : FilterSet where
  filters :=
    [gridFilter,
      .scalar ⟨"title", "string", { default := some (.fixed (.string "plan")) }⟩ (.string true)]
  nodup := by decide

/-- One row: a cell without a mark, and what is no cell. -/
def gridValue : Value :=
  .array [.array [.hash [], .integer 1]]

theorem shaped_of_build_grid :
    build markRegistry gridDeclarations = .ok gridFilters ∧
    ((gridFilter.judge {} 0 gridValue).flatten true).map (·.path) =
      [⟨"grid", [.index 0, .index 0, .key "mark"]⟩, ⟨"grid", [.index 0, .index 1]⟩] ∧
    ((gridFilter.judge {} 0 gridValue).flatten true).filterMap Issue.below? =
      (gridFilter.parts 0 gridValue).flatMap fun part =>
        (part.filter.judge {} 0 part.value).flatten true := by
  have built : build markRegistry gridDeclarations = .ok gridFilters := by rfl
  have hkept := (shaped_of_build built).2.2 gridFilter List.mem_cons_self
  refine ⟨built, rfl, ?_⟩
  exact ((hkept.2 gridFilter gridFilter.mem_nodes_self).2 {} 0 true gridValue).2 (Or.inl rfl)

end FilterSet

end Intake
