import Intake.Proofs.Cast.Composite

/-!
# Successful casts

`CastsTo` says what a cast that goes well can do, a rule for each way: nil passes where it is
accepted, a scalar filter reads, and a container filter casts the parts.  `cast_eq_ok_iff_castsTo`
says that there is no other way.
-/

namespace Intake

theorem Entries.value_of_get? {entries : Entries Value} {key : String} {value : Value}
    (h : entries.get? key = some value) : entries.value key = value := by
  rw [Entries.value, h, Option.getD_some]

namespace Head

/-- The entries that come out of a hash filter: what its fields give, over the other entries if
these are kept. -/
def assemble (head : Head) (merged : Entries Value) (fields : List Filter)
    (give : Filter → Value) : Entries Value :=
  Entries.insertAll (if head.options.strip then [] else merged)
    (fields.map fun field => (field.name, give field))

variable {head : Head} {fields : List Filter} {give : Filter → Value}

theorem assemble_congr (merged : Entries Value) {give' : Filter → Value}
    (h : ∀ field ∈ fields, give field = give' field) :
    head.assemble merged fields give = head.assemble merged fields give' := by
  have hpairs : (fields.map fun field => (field.name, give field)) =
      fields.map fun field => (field.name, give' field) :=
    List.map_congr_left fun field hf => by rw [h field hf]
  rw [assemble, assemble, hpairs]

theorem nodup_pairs (hnodup : (fields.map Filter.name).Nodup) (give : Filter → Value) :
    ((fields.map fun field => (field.name, give field)).map Prod.fst).Nodup := by
  rw [List.map_map]
  exact hnodup

/-- Every field has what it gives. -/
theorem get?_assemble (hnodup : (fields.map Filter.name).Nodup) (merged : Entries Value)
    {field : Filter} (hf : field ∈ fields) :
    (head.assemble merged fields give).get? field.name = some (give field) := by
  have hpairs := nodup_pairs hnodup give
  rw [assemble, Entries.get?_insertAll _ _ _ hpairs,
    Entries.get?_of_mem hpairs (List.mem_map_of_mem hf), Option.some_or]

/-- Where undeclared keys are dropped, there are no other entries. -/
theorem mem_fields_of_mem_keys {merged : Entries Value} (hstrip : head.options.strip = true)
    {key : String} (hk : key ∈ (head.assemble merged fields give).keys) :
    key ∈ fields.map Filter.name := by
  rw [assemble, hstrip, if_pos rfl, Entries.mem_keys_insertAll, List.map_map] at hk
  exact hk.resolve_left (by simp [Entries.keys])

theorem fallback_eq_ok_iff {value result : Value} :
    head.fallback value = .ok result ↔
      value = .nil ∧ result = .nil ∧ head.options.acceptsNil = true := by
  unfold fallback
  cases value with
  | nil =>
    cases head.options.acceptsNil with
    | true => simp [Value.isNil, eq_comm]
    | false => simp [Value.isNil]
  | _ => simp [Value.isNil]

end Head

@[simp] theorem Verdict.result_leaf (head : Head) (result : Except CastError Value) :
    (leaf head result).result = result := by
  cases result with
  | ok value => rfl
  | error error => rfl

namespace Filter

/-- What a filter casts a value to. -/
inductive CastsTo (ctx : Context) (drawn : Nat) : Filter → Value → Value → Prop where
  /-- Nil passes, unless it is read. -/
  | nil {filter : Filter} (accepts : filter.acceptsNil = true)
      (unread : filter.takes ctx .nil = false) : CastsTo ctx drawn filter .nil .nil
  | scalar {head : Head} {rule : Scalar} {value result : Value}
      (read : rule.read ctx value = some result) :
      CastsTo ctx drawn (scalar head rule) value result
  | array {head : Head} (items : List Value) :
      CastsTo ctx drawn (array head) (.array items) (.array items)
  | items {head : Head} {element : Filter} {items results : List Value}
      (casts : List.Forall₂ (fun item result => element.cast ctx drawn item = .ok result)
        items results) :
      CastsTo ctx drawn (arrayOf head element) (.array items) (.array results)
  | hash {head : Head} (entries : Entries Value) :
      CastsTo ctx drawn (hash head []) (.hash entries) (.hash entries)
  | fields {head : Head} {fields : List Filter} {entries : Entries Value} (give : Filter → Value)
      (nonempty : fields ≠ [])
      (casts : ∀ field ∈ fields,
        field.cast ctx drawn ((head.merged drawn entries).value field.name) = .ok (give field)) :
      CastsTo ctx drawn (hash head fields) (.hash entries)
        (.hash (head.assemble (head.merged drawn entries) fields give))

variable {ctx : Context} {drawn : Nat} {filter : Filter} {value result : Value}

theorem cast_items_eq_ok_iff {head : Head} {element : Filter} {items : List Value} :
    (arrayOf head element).cast ctx drawn (.array items) = .ok result ↔
      ∃ results, result = .array results ∧
        List.Forall₂ (fun item result => element.cast ctx drawn item = .ok result) items
          results := by
  have hvalue : ((arrayOf head element).judge ctx drawn (.array items)).value =
      .array (items.map fun item => (element.judge ctx drawn item).value) := by
    rw [judge, Verdict.value, Verdict.values_eq_map, List.map_map]
    rfl
  have hflatten : ((arrayOf head element).judge ctx drawn (.array items)).flatten true = [] ↔
      ∀ item ∈ items, (element.judge ctx drawn item).flatten true = [] := by
    rw [flatten_true_judge rfl, partIssues_eq_nil_iff]
    simp only [exists_cast_eq_ok_iff]
    exact forall_parts_items (p := fun child item => (child.judge ctx drawn item).flatten true = [])
      head element items
  have hresults : ∀ results : List Value,
      List.Forall₂ (fun item result => result = (element.judge ctx drawn item).value) items
          results ↔ results = items.map fun item => (element.judge ctx drawn item).value := by
    intro results
    rw [eq_comm, ← List.forall₂_eq_eq_eq, List.forall₂_map_left_iff]
    simp only [eq_comm]
  rw [cast_eq_ok_iff, hflatten, hvalue]
  simp only [cast_eq_ok_iff, List.forall₂_and_left, hresults]
  constructor
  · rintro ⟨hitems, rfl⟩
    exact ⟨_, rfl, hitems, rfl⟩
  · rintro ⟨results, rfl, hitems, rfl⟩
    exact ⟨hitems, rfl⟩

theorem cast_fields_eq_ok_iff {head : Head} {field : Filter} {rest : List Filter}
    {entries : Entries Value} :
    (hash head (field :: rest)).cast ctx drawn (.hash entries) = .ok result ↔
      ∃ give : Filter → Value,
        result = .hash (head.assemble (head.merged drawn entries) (field :: rest) give) ∧
        ∀ f ∈ field :: rest,
          f.cast ctx drawn ((head.merged drawn entries).value f.name) = .ok (give f) := by
  have hvalue : ((hash head (field :: rest)).judge ctx drawn (.hash entries)).value =
      .hash (head.assemble (head.merged drawn entries) (field :: rest) fun f =>
        (f.judge ctx drawn ((head.merged drawn entries).value f.name)).value) := by
    rw [judge, Verdict.value, Head.output, judgeFields_eq_map, List.map_map]
    rfl
  have hflatten : ((hash head (field :: rest)).judge ctx drawn (.hash entries)).flatten true = [] ↔
      ∀ f ∈ field :: rest,
        (f.judge ctx drawn ((head.merged drawn entries).value f.name)).flatten true = [] := by
    rw [flatten_true_judge rfl, partIssues_eq_nil_iff, parts, List.forall_mem_map]
    simp only [exists_cast_eq_ok_iff]
  rw [cast_eq_ok_iff, hflatten, hvalue]
  constructor
  · rintro ⟨hfields, rfl⟩
    exact ⟨_, rfl, fun f hf => cast_eq_ok_iff.mpr ⟨hfields f hf, rfl⟩⟩
  · rintro ⟨give, rfl, hcasts⟩
    refine ⟨fun f hf => (cast_eq_ok_iff.mp (hcasts f hf)).1, ?_⟩
    exact congrArg Value.hash
      (Head.assemble_congr _ fun f hf => (cast_eq_ok_iff.mp (hcasts f hf)).2)

/-- A cast of a value that the filter does not take gives nil at best. -/
theorem castsTo_of_refused (h : filter.takes ctx value = false)
    (hcast : filter.head.fallback value = .ok result) : CastsTo ctx drawn filter value result := by
  obtain ⟨rfl, rfl, haccepts⟩ := Head.fallback_eq_ok_iff.mp hcast
  exact .nil haccepts h

/-- **There is no other way for a cast to go well.** -/
theorem cast_eq_ok_iff_castsTo :
    filter.cast ctx drawn value = .ok result ↔ CastsTo ctx drawn filter value result := by
  constructor
  · intro h
    cases filter with
    | scalar head rule =>
      rw [cast, judge, Verdict.result_leaf, Head.castScalar] at h
      split at h
      · next hread =>
        rw [Except.ok.injEq] at h
        exact .scalar (h ▸ hread)
      · next hread => exact castsTo_of_refused (by rw [takes, hread, Option.isSome_none]) h
    | array head =>
      cases value with
      | array items =>
        obtain rfl := Except.ok.inj h
        exact .array items
      | _ => exact castsTo_of_refused rfl ((Verdict.result_leaf _ _).symm.trans h)
    | arrayOf head element =>
      cases value with
      | array items =>
        obtain ⟨results, rfl, hcasts⟩ := cast_items_eq_ok_iff.mp h
        exact .items hcasts
      | _ => exact castsTo_of_refused rfl ((Verdict.result_leaf _ _).symm.trans h)
    | hash head fields =>
      cases value with
      | hash entries =>
        cases fields with
        | nil =>
          obtain rfl := Except.ok.inj h
          exact .hash entries
        | cons field rest =>
          obtain ⟨give, rfl, hcasts⟩ := cast_fields_eq_ok_iff.mp h
          exact .fields give (by simp) hcasts
      | _ => exact castsTo_of_refused rfl ((Verdict.result_leaf _ _).symm.trans h)
  · intro h
    cases h with
    | nil accepts unread =>
      cases filter.judged ctx drawn .nil with
      | refused _ _ hjudge =>
        rw [cast, hjudge, Verdict.result_leaf]
        exact Head.fallback_eq_ok_iff.mpr ⟨rfl, rfl, accepts⟩
      | whole _ htakes => exact absurd htakes (by simp [unread])
    | scalar read => rw [cast, judge, Verdict.result_leaf, Head.castScalar, read]
    | array items => rfl
    | items casts => exact cast_items_eq_ok_iff.mpr ⟨_, rfl, casts⟩
    | hash entries => rfl
    | @fields head fields entries give nonempty casts =>
      cases fields with
      | nil => exact absurd rfl nonempty
      | cons field rest => exact cast_fields_eq_ok_iff.mpr ⟨give, rfl, casts⟩

end Filter

end Intake
