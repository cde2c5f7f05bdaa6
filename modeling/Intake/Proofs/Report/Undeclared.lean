import Intake.Proofs.Cast.Agreement
import Intake.Proofs.Processing

/-!
# Undeclared data

Two values are `Related` for a filter if they differ in nothing but the entries of hashes under keys
that no field declares, at any depth.  What is under such a key passes through the merging with the
default and through the entries that are kept, and never reaches a report: related values have the
same issues (`Related.flatten_judge`).  Where undeclared keys are dropped it does not reach what comes
out either (`Related.value_judge`).  So it goes for whole inputs: `undeclared_unobserved`.
-/

namespace Intake

/-- Under a key that two hashes both have or both lack, nothing but their own entries can make a
difference, with a default merged or without. -/
theorem Head.value_merged_congr {β : Type} (give : Value → β) (head : Head) (drawn : Nat)
    {entries entries' : Entries Value} (ascending : entries.Ascending)
    (ascending' : entries'.Ascending) {key : String}
    (present : key ∈ entries.keys ↔ key ∈ entries'.keys)
    (same : ∀ a b, entries.get? key = some a → entries'.get? key = some b → give a = give b) :
    give ((head.merged drawn entries).value key) = give ((head.merged drawn entries').value key) := by
  rw [Entries.value, Entries.value, head.get?_merged drawn ascending,
    head.get?_merged drawn ascending']
  cases ha : entries.get? key with
  | none =>
    have hb : entries'.get? key = none := by
      rw [Entries.get?_eq_none_iff, ← present, ← Entries.get?_eq_none_iff, ha]
    rw [hb]
  | some a =>
    cases hb : entries'.get? key with
    | none =>
      have hnone : entries.get? key = none := by
        rw [Entries.get?_eq_none_iff, present, ← Entries.get?_eq_none_iff, hb]
      exact absurd (ha.symm.trans hnone) (by simp)
    | some b => exact same a b ha hb

namespace Filter

/-- Two values differ in nothing but undeclared data. -/
inductive Related : Filter → Value → Value → Prop where
  | refl (filter : Filter) (value : Value) : Related filter value value
  /-- Two hashes with the same declared keys, and under each of them values that are related for its
  field. -/
  | fields {head : Head} {fields : List Filter} {entries entries' : Entries Value}
      (nonempty : fields ≠ []) (ascending : entries.Ascending) (ascending' : entries'.Ascending)
      (present : ∀ field ∈ fields, field.name ∈ entries.keys ↔ field.name ∈ entries'.keys)
      (related : ∀ field ∈ fields, ∀ a b, entries.get? field.name = some a →
        entries'.get? field.name = some b → Related field a b) :
      Related (hash head fields) (.hash entries) (.hash entries')
  /-- Two arrays of the same length, related item by item. -/
  | items {head : Head} {element : Filter} {items items' : List Value}
      (length : items.length = items'.length)
      (related : ∀ (i : Nat) (hi : i < items.length) (hi' : i < items'.length),
        Related element items[i] items'[i]) :
      Related (arrayOf head element) (.array items) (.array items')

/-- Whether a filter drops the keys that no field declares, if it has fields. -/
def dropsUndeclared : Filter → Bool
  | hash head (_ :: _) => head.options.strip
  | _ => true

/-- All filters of a tree that have fields drop the keys that no field declares. -/
def Strips (filter : Filter) : Prop :=
  ∀ node ∈ filter.nodes, node.dropsUndeclared = true

variable {ctx : Context} {drawn : Nat} {filter : Filter} {a b : Value}

theorem Strips.child (h : filter.Strips) {child : Filter} (hc : child ∈ filter.children) :
    child.Strips :=
  fun node hn => h node (mem_nodes_of_child hc hn)

/-! ### Related values -/

/-- Hashes with the same entries under the declared keys are related. -/
theorem related_of_get?_eq {head : Head} {fields : List Filter} {entries entries' : Entries Value}
    (nonempty : fields ≠ []) (ascending : entries.Ascending) (ascending' : entries'.Ascending)
    (h : ∀ field ∈ fields, entries.get? field.name = entries'.get? field.name) :
    (hash head fields).Related (.hash entries) (.hash entries') := by
  refine .fields nonempty ascending ascending' (fun field hf => ?_) fun field hf a b ha hb => ?_
  · rw [← not_iff_not, ← Entries.get?_eq_none_iff, ← Entries.get?_eq_none_iff, h field hf]
  · have hab : a = b := Option.some.inj (ha.symm.trans ((h field hf).trans hb))
    exact hab ▸ .refl field a

/-- **Undeclared data does not reach a report.** -/
theorem Related.flatten_judge (h : filter.Related a b) (full : Bool) :
    (filter.judge ctx drawn a).flatten full = (filter.judge ctx drawn b).flatten full := by
  induction h with
  | refl => rfl
  | @fields head fields entries entries' nonempty ascending ascending' present _ ih =>
    cases fields with
    | nil => exact absurd rfl nonempty
    | cons field rest =>
      rw [judge, judge, Verdict.flatten, Verdict.flatten, flattenFields_judge, flattenFields_judge]
      refine List.flatMap_congr fun f hf => ?_
      have hfield : (f.judge ctx drawn ((head.merged drawn entries).value f.name)).flatten full =
          (f.judge ctx drawn ((head.merged drawn entries').value f.name)).flatten full :=
        Head.value_merged_congr (fun v => (f.judge ctx drawn v).flatten full) head drawn ascending
          ascending' (present f hf) (ih f hf)
      rw [hfield]
  | @items head element items items' length _ ih =>
    have hitems : List.Forall₂ (fun v v' => v.flatten full = v'.flatten full)
        (items.map (element.judge ctx drawn)) (items'.map (element.judge ctx drawn)) := by
      rw [List.forall₂_map_left_iff, List.forall₂_map_right_iff]
      exact List.forall₂_iff_get.mpr ⟨length, ih⟩
    rw [judge, judge, Verdict.flatten, Verdict.flatten,
      Verdict.flattenElements_congr head.name hitems]

/-- **Nor does it reach what comes out, where undeclared keys are dropped.** -/
theorem Related.value_judge (h : filter.Related a b) (strips : filter.Strips) :
    (filter.judge ctx drawn a).value = (filter.judge ctx drawn b).value := by
  induction h with
  | refl => rfl
  | @fields head fields entries entries' nonempty ascending ascending' present _ ih =>
    have hpairs : (judgeFields ctx drawn (head.merged drawn entries) fields).map
          (fun field => (field.1, field.2.value)) =
        (judgeFields ctx drawn (head.merged drawn entries') fields).map
          fun field => (field.1, field.2.value) := by
      rw [judgeFields_eq_map, judgeFields_eq_map, List.map_map, List.map_map]
      refine List.map_congr_left fun f hf => ?_
      have hfield : (f.judge ctx drawn ((head.merged drawn entries).value f.name)).value =
          (f.judge ctx drawn ((head.merged drawn entries').value f.name)).value :=
        Head.value_merged_congr (fun v => (f.judge ctx drawn v).value) head drawn ascending
          ascending' (present f hf) fun a b ha hb => ih f hf a b ha hb (strips.child hf)
      exact congrArg (Prod.mk f.name) hfield
    cases fields with
    | nil => exact absurd rfl nonempty
    | cons field rest =>
      have hstrip : head.options.strip = true := strips _ (mem_nodes_self _)
      rw [judge, judge, Verdict.value, Verdict.value, Verdict.output_eq, Verdict.output_eq, hstrip,
        hpairs]
      rfl
  | @items head element items items' length _ ih =>
    have he : element.Strips := strips.child (List.mem_singleton_self element)
    have hitems : List.Forall₂ (fun v v' => v.value = v'.value)
        (items.map (element.judge ctx drawn)) (items'.map (element.judge ctx drawn)) := by
      rw [List.forall₂_map_left_iff, List.forall₂_map_right_iff]
      exact List.forall₂_iff_get.mpr ⟨length, fun i hi hi' => ih i hi hi' he⟩
    rw [judge, judge, Verdict.value, Verdict.value, Verdict.values_congr hitems]

/-- Whether nil comes out does not depend on undeclared data. -/
theorem Related.isNil_value_judge (h : filter.Related a b) :
    (filter.judge ctx drawn a).value.isNil = (filter.judge ctx drawn b).value.isNil := by
  cases h with
  | refl => rfl
  | @fields head fields _ _ nonempty =>
    cases fields with
    | nil => exact absurd rfl nonempty
    | cons field rest => rfl
  | items => rfl

/-! ### Related inputs -/

section Inputs

variable {tally : Tally} {inputs inputs' : Entries Value}
  (h : filter.Related (inputs.value filter.name) (inputs'.value filter.name))
  (fixed : filter.FixedDefaults)

include h

theorem Related.validate : filter.validate ctx tally inputs = filter.validate ctx tally inputs' := by
  rw [Filter.validate, Filter.validate, Verdict.issues, Verdict.issues, h.flatten_judge]

include fixed

theorem Related.process (strips : filter.Strips) :
    filter.process ctx tally inputs = filter.process ctx tally inputs' := by
  have hissues : (filter.judge ctx (tally.drawn filter.name) (inputs.value filter.name)).issues =
      (filter.judge ctx (tally.drawn filter.name) (inputs'.value filter.name)).issues :=
    h.flatten_judge false
  rw [Filter.process, Filter.process, hissues, h.value_judge strips,
    default_of_fixed fixed _
      (tally.drawn filter.name + filter.castDraws (inputs'.value filter.name))]

theorem Related.map_snd_process : (filter.process ctx tally inputs).map Prod.snd =
    (filter.process ctx tally inputs').map Prod.snd := by
  have hissues : (filter.judge ctx (tally.drawn filter.name) (inputs.value filter.name)).issues =
      (filter.judge ctx (tally.drawn filter.name) (inputs'.value filter.name)).issues :=
    h.flatten_judge false
  unfold Filter.process
  dsimp only
  rw [hissues, needsDefault, needsDefault, h.isNil_value_judge,
    default_of_fixed fixed _
      (tally.drawn filter.name + filter.castDraws (inputs'.value filter.name))]
  split
  · rfl
  · split
    · cases filter.default ctx
        (tally.drawn filter.name + filter.castDraws (inputs'.value filter.name)) with
      | ok value => rfl
      | error error => rfl
    · rfl

end Inputs

end Filter

namespace FilterSet

variable {set : FilterSet} {ctx : Context} {tally : Tally} {inputs inputs' : Entries Value}

theorem map_report_processAll {filters : List Filter}
    (h : ∀ filter ∈ filters, (filter.process ctx tally inputs).map Prod.snd =
      (filter.process ctx tally inputs').map Prod.snd) :
    ∀ {outcome outcome' : Outcome}, outcome.report = outcome'.report →
      (processAll ctx tally inputs filters outcome).map Outcome.report =
        (processAll ctx tally inputs' filters outcome').map Outcome.report := by
  induction filters with
  | nil =>
    intro outcome outcome' hreport
    rw [processAll, processAll, Except.map, Except.map, hreport]
  | cons filter rest ih =>
    intro outcome outcome' hreport
    have hrest : ∀ other ∈ rest, (other.process ctx tally inputs).map Prod.snd =
        (other.process ctx tally inputs').map Prod.snd :=
      fun other ho => h other (List.mem_cons_of_mem _ ho)
    rw [processAll, processAll]
    rcases map_eq_map.mp (h filter List.mem_cons_self) with
      ⟨error, hfail, hfail'⟩ | ⟨result, result', hok, hok', hissues⟩
    · rw [hfail, hfail']
    · rw [hok, hok']
      refine ih hrest ?_
      rw [hreport, hissues]

/-- **Undeclared data is not observed.**  Inputs that differ in nothing else get the same report and
process to the same error or the same report; where undeclared keys are dropped, to the same values
too. -/
theorem undeclared_unobserved (fixed : ∀ filter ∈ set.filters, filter.FixedDefaults)
    (related : ∀ filter ∈ set.filters,
      filter.Related (inputs.value filter.name) (inputs'.value filter.name))
    (ctx : Context) (tally tally' : Tally) :
    set.validate ctx tally inputs = set.validate ctx tally' inputs' ∧
    (set.process ctx tally inputs).map Outcome.report =
      (set.process ctx tally' inputs').map Outcome.report ∧
    ((∀ filter ∈ set.filters, filter.Strips) →
      set.process ctx tally inputs = set.process ctx tally' inputs') := by
  rw [validate_of_fixed fixed tally' tally, process_of_fixed fixed tally' tally]
  refine ⟨?_, ?_, fun strips => ?_⟩
  · exact List.flatMap_congr fun filter hf => (related filter hf).validate
  · exact map_report_processAll
      (fun filter hf => (related filter hf).map_snd_process (fixed filter hf)) rfl
  · exact processAll_congr
      (fun filter hf => (related filter hf).process (fixed filter hf) (strips filter hf)) {}

def placeFilter : Filter :=
  .hash ⟨"places", "hash", {}⟩ [.scalar ⟨"name", "string", {}⟩ (.string true)]

/-- The filter of a point, with a default that has more than a point. -/
def originFilter : Filter :=
  .hash ⟨"origin", "hash", { default := some (.fixed (.hash [("note", .nil), ("x", .nil)])) }⟩
    [.scalar ⟨"x", "integer", {}⟩ .integer]

/-- Places, and the point that they are seen from. -/
def mapFilters : FilterSet where
  filters := [.arrayOf ⟨"places", "array", {}⟩ placeFilter, originFilter]
  nodup := by decide

def mapInputs (place origin : Entries Value) : Entries Value :=
  [("origin", .hash origin), ("places", .array [.hash place])]

theorem undeclared_unobserved_map :
    mapFilters.process {} [] (mapInputs [("name", .string "Ys")] [("x", .string "7")]) =
      mapFilters.process {} [("origin", 2)]
        (mapInputs [("id", .integer 3), ("name", .string "Ys")]
          [("note", .boolean true), ("x", .string "7")]) := by
  have hfixed : ∀ filter ∈ mapFilters.filters, filter.FixedDefaults := by
    unfold Filter.FixedDefaults
    decide
  have hplace : placeFilter.Related (.hash [("name", .string "Ys")])
      (.hash [("id", .integer 3), ("name", .string "Ys")]) := by
    refine Filter.related_of_get?_eq (List.cons_ne_nil _ _) ?_ ?_ fun field hf => ?_
    · exact List.pairwise_singleton _ _
    · unfold Entries.Ascending
      decide
    · rw [List.mem_singleton.mp hf]
      rfl
  have horigin : originFilter.Related (.hash [("x", .string "7")])
      (.hash [("note", .boolean true), ("x", .string "7")]) := by
    refine Filter.related_of_get?_eq (List.cons_ne_nil _ _) ?_ ?_ fun field hf => ?_
    · exact List.pairwise_singleton _ _
    · unfold Entries.Ascending
      decide
    · rw [List.mem_singleton.mp hf]
      rfl
  have hrelated : ∀ filter ∈ mapFilters.filters, filter.Related
      ((mapInputs [("name", .string "Ys")] [("x", .string "7")]).value filter.name)
      ((mapInputs [("id", .integer 3), ("name", .string "Ys")]
          [("note", .boolean true), ("x", .string "7")]).value filter.name) := by
    intro filter hf
    rcases List.mem_cons.mp hf with rfl | hm
    · refine .items rfl fun i hi hi' => ?_
      obtain rfl : i = 0 := Nat.lt_one_iff.mp hi
      exact hplace
    · rw [List.mem_singleton.mp hm]
      exact horigin
  have hstrips : ∀ filter ∈ mapFilters.filters, filter.Strips := by
    unfold Filter.Strips
    decide
  exact (undeclared_unobserved hfixed hrelated {} [] [("origin", 2)]).2.2 hstrips

end FilterSet

end Intake
