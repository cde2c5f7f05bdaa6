import Intake.Proofs.Cast.Result
import Intake.Proofs.Entries
import Intake.Proofs.Filter.Built
import Intake.Registry.Builtin

/-!
# Casts of containers

A container is cast by a tree of verdicts; nothing is cast twice.  `cast_composite` says that it comes
to what casting the parts one by one would: a container is cast if and only if all of its parts are,
to the container of their results, and otherwise the error has what could be cast, with nil at every
position that the report in full tells of.
-/

namespace Intake

def Value.at? : List Segment → Value → Option Value
  | [], value => some value
  | .index i :: path, .array items => items[i]?.bind (at? path)
  | .key k :: path, .hash entries => (Entries.get? entries k).bind (at? path)
  | _, _ => none

theorem Verdict.values_eq_map (elements : List Verdict) :
    Verdict.values elements = elements.map Verdict.value := by
  induction elements with
  | nil => rfl
  | cons verdict rest ih => rw [Verdict.values, ih, List.map_cons]

namespace Head

/-- An entry of a value stands before the entry of the default under its key. -/
theorem get?_merged (head : Head) (drawn : Nat) {entries : Entries Value} (h : entries.Ascending)
    (key : String) : (head.merged drawn entries).get? key = (entries.get? key).or
      (head.options.default.bind fun default => (default.resolve drawn).get? key) := by
  unfold merged
  cases head.options.default with
  | none => rw [Option.bind_none, Option.or_none]
  | some default =>
    rw [Option.bind_some, Value.get?]
    dsimp only
    split
    · next defaults hd =>
      rw [hd, Entries.get?_insertAll _ _ _ h.nodup]
      rfl
    · next hd =>
      have hnone : (default.resolve drawn).asHash? = none := by
        cases hv : default.resolve drawn with
        | hash defaults => exact absurd hv (hd defaults)
        | _ => rfl
      rw [hnone, Option.bind_none, Option.or_none]

theorem eq_of_fallback_eq_error {head : Head} {value : Value} {error : CastError}
    (h : head.fallback value = .error error) :
    error = .missing head.name ∨ error = .invalid head.name value := by
  unfold fallback at h
  split at h
  · split at h
    · exact absurd h (by simp)
    · exact Or.inl (Except.error.inj h).symm
  · exact Or.inr (Except.error.inj h).symm

end Head

namespace Filter

variable {ctx : Context} {drawn : Nat} {filter : Filter} {value : Value}

/-- What a cast leaves of a value: its result, or what could be cast of a container, or nil. -/
def kept (filter : Filter) (ctx : Context) (drawn : Nat) (value : Value) : Value :=
  match filter.cast ctx drawn value with
  | .ok result => result
  | .error (.nested _ _ partly) => partly
  | .error _ => .nil

/-- The error of a filter itself does not tell of anything below. -/
theorem eq_of_error?_judge {error : CastError}
    (h : (filter.judge ctx drawn value).error? = some error) :
    error = .missing filter.name ∨ error = .invalid filter.name value := by
  rw [error?_judge] at h
  split at h
  · exact absurd h (by simp)
  · split at h
    · exact absurd h (by simp)
    · next hf =>
      rw [Option.some.injEq] at h
      subst h
      exact Head.eq_of_fallback_eq_error hf

theorem kept_eq_value (filter : Filter) (value : Value) :
    filter.kept ctx drawn value = (filter.judge ctx drawn value).value := by
  rw [kept, cast]
  cases he : (filter.judge ctx drawn value).error? with
  | some error =>
    rw [Verdict.result_of_error he, Verdict.value_of_error he]
    rcases eq_of_error?_judge he with rfl | rfl
    · rfl
    · rfl
  | none =>
    cases hf : (filter.judge ctx drawn value).flatten true with
    | nil => rw [Verdict.result_of_nil hf]
    | cons first rest => rw [Verdict.result_of_cons he hf]

/-! ### Casting by parts -/

theorem partIssues_eq_nil_iff :
    filter.partIssues ctx drawn true value = [] ↔
      ∀ part ∈ filter.parts drawn value, ∃ result,
        part.filter.cast ctx drawn part.value = .ok result := by
  rw [partIssues, List.flatMap_eq_nil_iff]
  refine forall₂_congr fun part _ => ?_
  rw [List.map_eq_nil_iff, exists_cast_eq_ok_iff]

theorem exists_cast_eq_ok_iff_parts (h : (filter.judge ctx drawn value).error? = none) :
    (∃ result, filter.cast ctx drawn value = .ok result) ↔
      ∀ part ∈ filter.parts drawn value, ∃ result,
        part.filter.cast ctx drawn part.value = .ok result := by
  rw [exists_cast_eq_ok_iff, flatten_true_judge h, partIssues_eq_nil_iff]

theorem nested_of_cast_eq_error {error : CastError}
    (h : (filter.judge ctx drawn value).error? = none)
    (hcast : filter.cast ctx drawn value = .error error) :
    ∃ first rest, (filter.judge ctx drawn value).flatten true = first :: rest ∧
      error = .nested filter.name first.path (filter.judge ctx drawn value).value := by
  rw [cast] at hcast
  cases hf : (filter.judge ctx drawn value).flatten true with
  | nil => rw [Verdict.result_of_nil hf] at hcast; exact absurd hcast (by simp)
  | cons first rest =>
    rw [Verdict.result_of_cons h hf, Except.error.injEq, head_judge] at hcast
    exact ⟨first, rest, rfl, hcast.symm⟩

/-! ### The container of the results -/

/-- The entries of a cast hash: what its fields give, and the other entries if these are kept. -/
structure Assembled (head : Head) (fields : List Filter) (merged : Entries Value)
    (give : Filter → Value) (output : Entries Value) : Prop where
  declared : ∀ field ∈ fields, output.get? field.name = some (give field)
  undeclared : ∀ key, key ∉ fields.map Filter.name →
    output.get? key = if head.options.strip then none else merged.get? key
  ascending : merged.Ascending → output.Ascending

theorem Assembled.congr {head : Head} {fields : List Filter} {merged output : Entries Value}
    {give give' : Filter → Value} (h : Assembled head fields merged give output)
    (hgive : ∀ field ∈ fields, give field = give' field) :
    Assembled head fields merged give' output where
  declared field hf := by rw [h.declared field hf, hgive field hf]
  undeclared := h.undeclared
  ascending := h.ascending

theorem assembled_output (ctx : Context) (drawn : Nat) (head : Head) {fields : List Filter}
    (hnodup : (fields.map Filter.name).Nodup) (merged : Entries Value) :
    Assembled head fields merged
      (fun field => (field.judge ctx drawn (merged.value field.name)).value)
      (head.output merged (judgeFields ctx drawn merged fields)) := by
  have hpairs : ((fields.map fun field =>
      (field.name, (field.judge ctx drawn (merged.value field.name)).value)).map Prod.fst) =
        fields.map Filter.name := by
    rw [List.map_map]
    rfl
  rw [← hpairs] at hnodup
  rw [Head.output, judgeFields_eq_map, List.map_map]
  constructor
  · intro field hf
    have hget := Entries.get?_of_mem hnodup (List.mem_map_of_mem hf)
    exact (Entries.get?_insertAll _ _ _ hnodup).trans (by rw [hget, Option.some_or])
  · intro key hk
    rw [← hpairs] at hk
    have hget := Entries.get?_of_notMem hk
    refine (Entries.get?_insertAll _ _ _ hnodup).trans ?_
    rw [hget, Option.none_or]
    cases head.options.strip with
    | true => rfl
    | false => rfl
  · intro h
    refine Entries.ascending_insertAll _ ?_
    cases head.options.strip with
    | true => exact List.Pairwise.nil
    | false => exact h

/-- What is cast of a part stands at its step. -/
theorem at?_value_judge (hd : filter.Distinct) {part : Part}
    (hp : part ∈ filter.parts drawn value) (path : List Segment) :
    (filter.judge ctx drawn value).value.at? (part.step :: path) =
      (part.filter.judge ctx drawn part.value).value.at? path := by
  cases filter.judged ctx drawn value with
  | refused _ hparts _ => rw [hparts] at hp; exact absurd hp (by simp)
  | whole _ _ hparts _ => rw [hparts] at hp; exact absurd hp (by simp)
  | items head element items =>
    obtain ⟨i, hi, rfl⟩ := List.mem_mapIdx.mp hp
    rw [judge, Verdict.value, Verdict.values_eq_map, List.map_map, Value.at?, List.getElem?_map,
      List.getElem?_eq_getElem hi]
    rfl
  | fields head field rest entries =>
    obtain ⟨f, hf, rfl⟩ := List.mem_map.mp hp
    have hassembled := assembled_output ctx drawn head hd.names (head.merged drawn entries)
    rw [judge, Verdict.value, Value.at?]
    exact congrArg (Option.bind · (Value.at? path)) (hassembled.declared f hf)

/-- At every position that the report in full tells of, nil is kept. -/
theorem at?_value_of_mem_flatten (filter : Filter) : filter.Distinct → ∀ (value : Value)
    (issue : Issue), issue ∈ (filter.judge ctx drawn value).flatten true →
      (filter.judge ctx drawn value).value.at? issue.path.segments = some .nil := by
  induction filter using Filter.ind with
  | step filter ih =>
    intro hd value issue hi
    cases he : (filter.judge ctx drawn value).error? with
    | some error =>
      rw [Verdict.flatten_of_error he, List.mem_singleton] at hi
      rw [Verdict.value_of_error he, hi]
      rfl
    | none =>
      rw [flatten_true_judge he] at hi
      obtain ⟨part, hp, hm⟩ := List.mem_flatMap.mp hi
      obtain ⟨inner, hinner, rfl⟩ := List.mem_map.mp hm
      have hc := mem_children_of_mem_parts hp
      rw [Issue.under_segments, at?_value_judge hd hp]
      exact ih part.filter hc (hd.child hc) part.value inner hinner

/-! ### Casting a container is casting its parts -/

/-- A cast ends with an error at the first issue of the report in full.  The error has what is kept
of the container, with nil at every position that this report tells of. -/
def EndsNested (ctx : Context) (drawn : Nat) (filter : Filter) (value : Value) (error : CastError)
    (partly : Value) : Prop :=
  ∃ first rest, (filter.judge ctx drawn value).flatten true = first :: rest ∧
    error = .nested filter.name first.path partly ∧
    ∀ issue ∈ first :: rest, partly.at? issue.path.segments = some .nil

/-- An array is cast item by item. -/
structure CastsItems (ctx : Context) (drawn : Nat) (head : Head) (element : Filter)
    (items : List Value) : Prop where
  ok_iff : (∃ result, (arrayOf head element).cast ctx drawn (.array items) = .ok result) ↔
    ∀ item ∈ items, ∃ result, element.cast ctx drawn item = .ok result
  ok : ∀ result, (arrayOf head element).cast ctx drawn (.array items) = .ok result →
    ∃ results, result = .array results ∧
      List.Forall₂ (fun item result => element.cast ctx drawn item = .ok result) items results
  error : ∀ error, (arrayOf head element).cast ctx drawn (.array items) = .error error →
    EndsNested ctx drawn (arrayOf head element) (.array items) error
      (.array (items.map (element.kept ctx drawn)))

/-- A hash, with the default under it, is cast field by field. -/
structure CastsFields (ctx : Context) (drawn : Nat) (head : Head) (fields : List Filter)
    (entries merged : Entries Value) : Prop where
  under : entries.Ascending → ∀ key, merged.get? key = (entries.get? key).or
    (head.options.default.bind fun default => (default.resolve drawn).get? key)
  ok_iff : (∃ result, (hash head fields).cast ctx drawn (.hash entries) = .ok result) ↔
    ∀ field ∈ fields, ∃ result, field.cast ctx drawn (merged.value field.name) = .ok result
  ok : ∀ result, (hash head fields).cast ctx drawn (.hash entries) = .ok result →
    ∃ give output, result = .hash output ∧
      (∀ field ∈ fields, field.cast ctx drawn (merged.value field.name) = .ok (give field)) ∧
      Assembled head fields merged give output
  error : ∀ error, (hash head fields).cast ctx drawn (.hash entries) = .error error →
    ∃ output, EndsNested ctx drawn (hash head fields) (.hash entries) error (.hash output) ∧
      Assembled head fields merged
        (fun field => field.kept ctx drawn (merged.value field.name)) output

theorem endsNested_of_cast_eq_error (hd : filter.Distinct) {error : CastError}
    (h : (filter.judge ctx drawn value).error? = none)
    (hcast : filter.cast ctx drawn value = .error error) :
    EndsNested ctx drawn filter value error (filter.judge ctx drawn value).value := by
  obtain ⟨first, rest, hf, he⟩ := nested_of_cast_eq_error h hcast
  refine ⟨first, rest, hf, he, fun issue hi => ?_⟩
  rw [← hf] at hi
  exact at?_value_of_mem_flatten filter hd value issue hi

theorem value_judge_items (head : Head) (element : Filter) (items : List Value) :
    ((arrayOf head element).judge ctx drawn (.array items)).value =
      .array (items.map (element.kept ctx drawn)) := by
  rw [judge, Verdict.value, Verdict.values_eq_map, List.map_map]
  congr 1
  exact List.map_congr_left fun item _ => (kept_eq_value element item).symm

theorem castsItems {head : Head} {element : Filter} (hd : (arrayOf head element).Distinct)
    (items : List Value) : CastsItems ctx drawn head element items := by
  have hparts : (∀ part ∈ (arrayOf head element).parts drawn (.array items), ∃ result,
        part.filter.cast ctx drawn part.value = .ok result) ↔
      ∀ item ∈ items, ∃ result, element.cast ctx drawn item = .ok result :=
    forall_parts_items (p := fun child item => ∃ result, child.cast ctx drawn item = .ok result)
      head element items
  have hiff : (∃ result, (arrayOf head element).cast ctx drawn (.array items) = .ok result) ↔
      ∀ item ∈ items, ∃ result, element.cast ctx drawn item = .ok result :=
    (exists_cast_eq_ok_iff_parts rfl).trans hparts
  constructor
  · exact hiff
  · intro result h
    have hitems := hiff.mp ⟨result, h⟩
    refine ⟨items.map (element.kept ctx drawn), ?_, ?_⟩
    · rw [(cast_eq_ok_iff.mp h).2, value_judge_items]
    · rw [List.forall₂_map_right_iff, List.forall₂_same]
      intro item hitem
      obtain ⟨r, hr⟩ := hitems item hitem
      rw [kept, hr]
  · intro error h
    rw [← value_judge_items head element items]
    exact endsNested_of_cast_eq_error hd rfl h

theorem castsFields {head : Head} {field : Filter} {rest : List Filter}
    (hd : (hash head (field :: rest)).Distinct) (entries : Entries Value) :
    CastsFields ctx drawn head (field :: rest) entries (head.merged drawn entries) := by
  have hassembled : Assembled head (field :: rest) (head.merged drawn entries)
      (fun f => f.kept ctx drawn ((head.merged drawn entries).value f.name))
      (head.output (head.merged drawn entries)
        (judgeFields ctx drawn (head.merged drawn entries) (field :: rest))) :=
    (assembled_output ctx drawn head hd.names _).congr fun f _ => (kept_eq_value f _).symm
  have hiff : (∃ result, (hash head (field :: rest)).cast ctx drawn (.hash entries) = .ok result) ↔
      ∀ f ∈ field :: rest, ∃ result,
        f.cast ctx drawn ((head.merged drawn entries).value f.name) = .ok result := by
    rw [exists_cast_eq_ok_iff_parts rfl, parts, List.forall_mem_map]
  constructor
  · intro h key
    exact head.get?_merged drawn h key
  · exact hiff
  · intro result h
    have hfields := hiff.mp ⟨result, h⟩
    refine ⟨_, _, (cast_eq_ok_iff.mp h).2, fun f hf => ?_, hassembled⟩
    obtain ⟨r, hr⟩ := hfields f hf
    rw [kept, hr]
  · intro error h
    exact ⟨_, endsNested_of_cast_eq_error hd rfl h, hassembled⟩

/-- **The cast of a container is the cast of its parts.** -/
theorem cast_composite {registry : Registry} {declaration : Declaration} {name : String}
    (built : declaration.buildAs registry name = .ok filter) (ctx : Context) (drawn : Nat) :
    (∀ head element, filter = arrayOf head element → ∀ items,
      CastsItems ctx drawn head element items) ∧
    (∀ head fields, filter = hash head fields → fields ≠ [] → ∀ entries,
      CastsFields ctx drawn head fields entries (head.merged drawn entries)) ∧
    (∀ head, filter = array head → ∀ items,
      filter.cast ctx drawn (.array items) = .ok (.array items)) ∧
    (∀ head, filter = hash head [] → ∀ entries,
      filter.cast ctx drawn (.hash entries) = .ok (.hash entries)) := by
  have hd := Declaration.distinct_of_buildAs built
  refine ⟨?_, ?_, ?_, ?_⟩
  · rintro head element rfl items
    exact castsItems hd items
  · intro head fields hf hne entries
    subst hf
    cases fields with
    | nil => exact absurd rfl hne
    | cons field rest => exact castsFields hd entries
  · rintro head rfl items
    rfl
  · rintro head rfl entries
    rfl

/-- A basket with the counts of its items, in euros by default. -/
def basketDeclaration : Declaration :=
  ⟨"hash", some "basket", { default := some (.fixed (.hash [("currency", .string "EUR")])) },
    [⟨"string", some "currency", {}, []⟩,
      ⟨"array", some "counts", {}, [⟨"integer", none, {}, []⟩]⟩]⟩

def countsFilter : Filter :=
  .arrayOf ⟨"counts", "array", {}⟩ (.scalar ⟨"counts", "integer", {}⟩ .integer)

def basketFields : List Filter :=
  [.scalar ⟨"currency", "string", {}⟩ (.string true), countsFilter]

def basketHead : Head :=
  ⟨"basket", "hash", { default := some (.fixed (.hash [("currency", .string "EUR")])) }⟩

theorem cast_composite_basket :
    basketDeclaration.buildAs Registry.builtin "basket" = .ok (.hash basketHead basketFields) ∧
    basketFields ≠ [] ∧
    ∃ output : Entries Value, EndsNested {} 0 (.hash basketHead basketFields)
        (.hash [("counts", .array [.integer 1, .string "x"])])
        (.nested "basket" ⟨"basket", [.key "counts", .index 1]⟩
          (.hash [("counts", .array [.integer 1, .nil]), ("currency", .string "EUR")]))
        (.hash output) ∧
      output.get? "counts" = some (.array [.integer 1, .nil]) := by
  have built : basketDeclaration.buildAs Registry.builtin "basket" =
      .ok (.hash basketHead basketFields) := by rfl
  have hne : basketFields ≠ [] := by simp [basketFields]
  have hfields := (cast_composite built {} 0).2.1 basketHead basketFields rfl hne
    [("counts", .array [.integer 1, .string "x"])]
  obtain ⟨output, hends, hassembled⟩ := hfields.error _ rfl
  refine ⟨built, hne, output, hends, ?_⟩
  exact hassembled.declared countsFilter (List.mem_cons_of_mem _ List.mem_cons_self)

end Filter

end Intake
