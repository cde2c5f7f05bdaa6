import Intake.Proofs.Cast.Result
import Intake.Proofs.Entries
import Intake.Proofs.Filter.Fixed
import Intake.Validation

/-!
# Processing

Processing takes the filters one after the other.  It fails where cleaning fails at a default, with
the error of the first filter where this is so (`processAll_eq`).  Otherwise it tells what validation
tells and stores what cleaning gives, nil where the input is rejected: `process_agrees`.
-/

namespace Intake

namespace Filter

def cleanInput (filter : Filter) (ctx : Context) (tally : Tally) (inputs : Entries Value) :
    Except CleanError Value :=
  filter.clean ctx (tally.drawn filter.name) (inputs.value filter.name)

/-- Why the default of a filter fails, if it is asked for. -/
def failure? (filter : Filter) (ctx : Context) (tally : Tally) (inputs : Entries Value) :
    Option DefinitionError :=
  match filter.cleanInput ctx tally inputs with
  | .error (.definition error) => some error
  | _ => none

/-- What is stored for a filter: the cleaned input, or nil if it is rejected. -/
def stored (filter : Filter) (ctx : Context) (tally : Tally) (inputs : Entries Value) : Value :=
  match filter.cleanInput ctx tally inputs with
  | .ok value => value
  | .error _ => .nil

variable {ctx : Context} {tally : Tally} {inputs : Entries Value} {filter : Filter}

theorem failure?_eq_some_iff {error : DefinitionError} :
    filter.failure? ctx tally inputs = some error ↔
      filter.cleanInput ctx tally inputs = .error (.definition error) := by
  unfold failure?
  cases filter.cleanInput ctx tally inputs with
  | ok value => simp
  | error e => cases e <;> simp

theorem failure?_eq_none_iff :
    filter.failure? ctx tally inputs = none ↔
      ∀ error, filter.cleanInput ctx tally inputs ≠ .error (.definition error) := by
  rw [Option.eq_none_iff_forall_ne_some]
  exact forall_congr' fun error => not_congr failure?_eq_some_iff

theorem validate_eq_nil_iff :
    filter.validate ctx tally inputs = [] ↔
      ∀ error, filter.cleanInput ctx tally inputs ≠ .error (.cast error) := by
  rw [validate, issues_eq_nil_iff, cleanInput, clean]
  cases filter.cast ctx (tally.drawn filter.name) (inputs.value filter.name) with
  | ok value =>
    refine iff_of_true ⟨value, rfl⟩ fun error => ?_
    dsimp only
    split
    · split
      · simp
      · simp
    · simp
  | error error =>
    refine iff_of_false ?_ fun h => h error rfl
    rintro ⟨value, hv⟩
    exact absurd hv (by simp)

/-- Where no default fails, the input is cleaned and nothing is wrong with it, or it is rejected. -/
theorem cleaned_or_rejected (h : filter.failure? ctx tally inputs = none) :
    (∃ value, filter.cleanInput ctx tally inputs = .ok value ∧
      filter.stored ctx tally inputs = value ∧ filter.validate ctx tally inputs = []) ∨
    (∃ error, filter.cleanInput ctx tally inputs = .error (.cast error) ∧
      filter.stored ctx tally inputs = .nil ∧ filter.validate ctx tally inputs ≠ []) := by
  rw [stored, Ne, validate_eq_nil_iff]
  cases hc : filter.cleanInput ctx tally inputs with
  | ok value => exact Or.inl ⟨value, rfl, rfl, fun error => by simp⟩
  | error error =>
    cases error with
    | cast error => exact Or.inr ⟨error, rfl, rfl, fun hn => hn error rfl⟩
    | definition error => exact absurd hc (failure?_eq_none_iff.mp h error)

/-- What processing makes of one filter. -/
theorem process_eq :
    filter.process ctx tally inputs =
      match filter.failure? ctx tally inputs with
      | some error => .error error
      | none => .ok (filter.stored ctx tally inputs, filter.validate ctx tally inputs) := by
  unfold process failure? stored validate cleanInput clean
  cases hc : filter.cast ctx (tally.drawn filter.name) (inputs.value filter.name) with
  | ok value =>
    obtain ⟨hf, rfl⟩ := cast_eq_ok_iff.mp hc
    have hissues := issues_eq_nil_iff.mpr ⟨_, hc⟩
    dsimp only
    rw [hissues, List.isEmpty_nil, Bool.not_true, if_neg Bool.false_ne_true]
    split
    · cases filter.default ctx (tally.drawn filter.name +
          filter.castDraws (inputs.value filter.name)) with
      | ok value => rfl
      | error error => rfl
    · rfl
  | error error =>
    have hissues : (filter.judge ctx (tally.drawn filter.name)
        (inputs.value filter.name)).issues.isEmpty = false := by
      rw [List.isEmpty_eq_false_iff, Ne, issues_eq_nil_iff]
      rintro ⟨value, hv⟩
      rw [hc] at hv
      exact absurd hv (by simp)
    dsimp only
    rw [hissues, Bool.not_false, if_pos rfl]

theorem validate_of_fixed (fixed : filter.FixedDefaults) (tally later : Tally) :
    filter.validate ctx tally inputs = filter.validate ctx later inputs := by
  rw [validate, validate, judge_of_fixed filter fixed _ (later.drawn filter.name)]

theorem process_of_fixed (fixed : filter.FixedDefaults) (tally later : Tally) :
    filter.process ctx tally inputs = filter.process ctx later inputs := by
  have hclean : filter.cleanInput ctx tally inputs = filter.cleanInput ctx later inputs :=
    clean_of_fixed fixed _ _ _
  rw [process_eq, process_eq, failure?, failure?, stored, stored, hclean,
    validate_of_fixed fixed tally later]

end Filter

namespace FilterSet

variable {ctx : Context} {tally : Tally} {inputs : Entries Value} {set : FilterSet}

theorem filter_eq_of_name_eq {a b : Filter} (ha : a ∈ set.filters) (hb : b ∈ set.filters)
    (hab : a.name = b.name) : a = b :=
  List.inj_on_of_nodup_map set.nodup ha hb hab

/-- What processing makes of filters, on top of an outcome: the error of the first default that
fails, or else all that is stored and all that is wrong. -/
theorem processAll_eq (filters : List Filter) : ∀ outcome : Outcome,
    processAll ctx tally inputs filters outcome =
      match filters.findSome? fun filter => filter.failure? ctx tally inputs with
      | some error => .error error
      | none => .ok
          ⟨outcome.values.insertAll
              (filters.map fun filter => (filter.name, filter.stored ctx tally inputs)),
            outcome.report ++ filters.flatMap fun filter => filter.validate ctx tally inputs⟩ := by
  induction filters with
  | nil =>
    intro outcome
    rw [processAll, List.findSome?_nil, List.flatMap_nil, List.append_nil]
    rfl
  | cons filter rest ih =>
    intro outcome
    rw [processAll, Filter.process_eq, List.findSome?_cons]
    cases filter.failure? ctx tally inputs with
    | some error => rfl
    | none =>
      dsimp only
      rw [ih, List.map_cons, Entries.insertAll_cons, List.flatMap_cons, List.append_assoc]

/-- Runs that make the same of every filter come to the same. -/
theorem processAll_congr {tally' : Tally} {inputs' : Entries Value} {filters : List Filter}
    (h : ∀ filter ∈ filters, filter.process ctx tally inputs = filter.process ctx tally' inputs') :
    ∀ outcome : Outcome, processAll ctx tally inputs filters outcome =
      processAll ctx tally' inputs' filters outcome := by
  induction filters with
  | nil => intro outcome; rfl
  | cons filter rest ih =>
    intro outcome
    rw [processAll, processAll, h filter List.mem_cons_self]
    cases filter.process ctx tally' inputs' with
    | error error => rfl
    | ok result => exact ih (fun other ho => h other (List.mem_cons_of_mem _ ho)) _

theorem process_eq_error_iff {error : DefinitionError} :
    set.process ctx tally inputs = .error error ↔
      ∃ before filter after, set.filters = before ++ filter :: after ∧
        (∀ other ∈ before, other.failure? ctx tally inputs = none) ∧
        filter.failure? ctx tally inputs = some error := by
  rw [process, processAll_eq]
  have hfirst : (∃ before filter after, set.filters = before ++ filter :: after ∧
        (∀ other ∈ before, other.failure? ctx tally inputs = none) ∧
        filter.failure? ctx tally inputs = some error) ↔
      (set.filters.findSome? fun filter => filter.failure? ctx tally inputs) = some error := by
    rw [List.findSome?_eq_some_iff]
    refine exists_congr fun before => exists_congr fun filter => exists_congr fun after => ?_
    exact and_congr_right fun _ => and_comm
  rw [hfirst]
  cases set.filters.findSome? fun filter => filter.failure? ctx tally inputs with
  | some e => rw [Except.error.injEq, Option.some.injEq]
  | none => simp

/-- What is known of an outcome of processing. -/
theorem of_process_eq_ok {outcome : Outcome} (h : set.process ctx tally inputs = .ok outcome) :
    (∀ filter ∈ set.filters, filter.failure? ctx tally inputs = none) ∧
      outcome.report = set.validate ctx tally inputs ∧
      outcome.values = Entries.insertAll []
        (set.filters.map fun filter => (filter.name, filter.stored ctx tally inputs)) := by
  rw [process, processAll_eq] at h
  cases hf : set.filters.findSome? fun filter => filter.failure? ctx tally inputs with
  | some error => rw [hf] at h; exact absurd h (by simp)
  | none =>
    rw [hf, Except.ok.injEq] at h
    subst h
    exact ⟨List.findSome?_eq_none_iff.mp hf, List.nil_append _, rfl⟩

theorem get?_stored {filter : Filter} (hf : filter ∈ set.filters) :
    (Entries.insertAll [] (set.filters.map fun filter =>
      (filter.name, filter.stored ctx tally inputs))).get? filter.name =
        some (filter.stored ctx tally inputs) := by
  have hnodup : ((set.filters.map fun filter =>
      (filter.name, filter.stored ctx tally inputs)).map Prod.fst).Nodup := by
    rw [List.map_map]
    exact set.nodup
  rw [Entries.get?_insertAll _ _ _ hnodup, Entries.get?_of_mem hnodup (List.mem_map_of_mem hf),
    Option.some_or]

/-- What a report tells of a filter is what is wrong with the input of that filter. -/
theorem mem_validate_iff_of_root {filter : Filter} (hf : filter ∈ set.filters) {issue : Issue}
    (hroot : issue.path.root = filter.name) :
    issue ∈ set.validate ctx tally inputs ↔ issue ∈ filter.validate ctx tally inputs := by
  constructor
  · intro hi
    obtain ⟨other, ho, hm⟩ := List.mem_flatMap.mp hi
    have hother : other = filter :=
      filter_eq_of_name_eq ho hf ((Filter.root_of_mem_judge hm).symm.trans hroot)
    exact hother ▸ hm
  · intro hi
    exact List.mem_flatMap.mpr ⟨filter, hf, hi⟩

/-- A report tells something of a filter if and only if the filter rejects its input. -/
theorem exists_root_eq_iff {filter : Filter} (hf : filter ∈ set.filters) :
    (∃ issue ∈ set.validate ctx tally inputs, issue.path.root = filter.name) ↔
      filter.validate ctx tally inputs ≠ [] := by
  constructor
  · rintro ⟨issue, hi, hroot⟩
    exact List.ne_nil_of_mem ((mem_validate_iff_of_root hf hroot).mp hi)
  · intro h
    obtain ⟨issue, hi⟩ := List.exists_mem_of_ne_nil _ h
    have hroot : issue.path.root = filter.name := Filter.root_of_mem_judge hi
    exact ⟨issue, (mem_validate_iff_of_root hf hroot).mpr hi, hroot⟩

/-! ### Fixed defaults -/

theorem validate_of_fixed (fixed : ∀ filter ∈ set.filters, filter.FixedDefaults)
    (tally later : Tally) : set.validate ctx tally inputs = set.validate ctx later inputs := by
  exact List.flatMap_congr fun filter hf => Filter.validate_of_fixed (fixed filter hf) tally later

theorem process_of_fixed (fixed : ∀ filter ∈ set.filters, filter.FixedDefaults)
    (tally later : Tally) : set.process ctx tally inputs = set.process ctx later inputs :=
  processAll_congr (fun filter hf => Filter.process_of_fixed (fixed filter hf) tally later) {}

/-- **Processing agrees with validation and with cleaning**, which may be asked at any time. -/
theorem process_agrees (fixed : ∀ filter ∈ set.filters, filter.FixedDefaults) (ctx : Context)
    (tally : Tally) (inputs : Entries Value) :
    (∀ error, set.process ctx tally inputs = .error error ↔
      ∃ before filter after, set.filters = before ++ filter :: after ∧
        (∀ other ∈ before, ∀ drawn e,
          other.clean ctx drawn (inputs.value other.name) ≠ .error (.definition e)) ∧
        ∀ drawn, filter.clean ctx drawn (inputs.value filter.name) = .error (.definition error)) ∧
    ∀ outcome, set.process ctx tally inputs = .ok outcome →
      (∀ later, outcome.report = set.validate ctx later inputs) ∧
      outcome.values.Ascending ∧
      (∀ key, key ∈ outcome.values.keys ↔ key ∈ set.names) ∧
      ∀ filter ∈ set.filters, ∀ drawn,
        (∃ value, filter.clean ctx drawn (inputs.value filter.name) = .ok value ∧
          outcome.values.get? filter.name = some value ∧
          ∀ issue ∈ outcome.report, issue.path.root ≠ filter.name) ∨
        (∃ error, filter.clean ctx drawn (inputs.value filter.name) = .error (.cast error) ∧
          outcome.values.get? filter.name = some .nil ∧
          ∃ issue ∈ outcome.report, issue.path.root = filter.name) := by
  have hclean : ∀ filter ∈ set.filters, ∀ drawn,
      filter.clean ctx drawn (inputs.value filter.name) = filter.cleanInput ctx tally inputs :=
    fun filter hf drawn => Filter.clean_of_fixed (fixed filter hf) _ _ _
  constructor
  · intro error
    rw [process_eq_error_iff]
    refine exists_congr fun before => exists_congr fun filter => exists_congr fun after =>
      and_congr_right fun hfilters => and_congr ?_ ?_
    · refine forall₂_congr fun other ho => ?_
      have hmem : other ∈ set.filters := by rw [hfilters]; exact List.mem_append_left _ ho
      rw [Filter.failure?_eq_none_iff]
      constructor
      · intro h drawn e
        rw [hclean other hmem drawn]
        exact h e
      · intro h e
        rw [← hclean other hmem 0]
        exact h 0 e
    · have hmem : filter ∈ set.filters := by rw [hfilters]; simp
      rw [Filter.failure?_eq_some_iff]
      constructor
      · intro h drawn
        rw [hclean filter hmem drawn, h]
      · intro h
        rw [← hclean filter hmem 0, h 0]
  · intro outcome h
    obtain ⟨hfailure, hreport, hvalues⟩ := of_process_eq_ok h
    refine ⟨fun later => ?_, ?_, fun key => ?_, fun filter hf drawn => ?_⟩
    · rw [hreport, validate_of_fixed fixed tally later]
    · rw [hvalues]
      exact Entries.ascending_insertAll _ List.Pairwise.nil
    · rw [hvalues, Entries.mem_keys_insertAll, List.map_map]
      exact or_iff_right (by simp [Entries.keys])
    · rw [hclean filter hf drawn, hvalues, get?_stored hf, hreport]
      rcases Filter.cleaned_or_rejected (hfailure filter hf) with
        ⟨value, hcleaned, hstored, hvalidate⟩ | ⟨error, hrejected, hstored, hvalidate⟩
      · refine Or.inl ⟨value, hcleaned, by rw [hstored], fun issue hi hroot => ?_⟩
        exact (exists_root_eq_iff hf).mp ⟨issue, hi, hroot⟩ hvalidate
      · exact Or.inr ⟨error, hrejected, by rw [hstored], (exists_root_eq_iff hf).mpr hvalidate⟩

def listingFilters : FilterSet where
  filters :=
    [.scalar ⟨"limit", "integer", { default := some (.fixed (.integer 10)) }⟩ .integer,
      .scalar ⟨"title", "string", {}⟩ (.string true)]
  nodup := by decide

theorem process_agrees_listing :
    (∀ filter ∈ listingFilters.filters, filter.FixedDefaults) ∧
    listingFilters.process {} [] [] =
      .ok ⟨[("limit", .integer 10), ("title", .nil)],
        listingFilters.validate {} [("limit", 1)] []⟩ := by
  have hfixed : ∀ filter ∈ listingFilters.filters, filter.FixedDefaults := by
    unfold Filter.FixedDefaults
    decide
  have hprocess : listingFilters.process {} [] [] =
      .ok ⟨[("limit", .integer 10), ("title", .nil)],
        [⟨⟨"title", []⟩, .missing, [], some "title"⟩]⟩ := rfl
  refine ⟨hfixed, ?_⟩
  rw [hprocess, ← ((process_agrees hfixed {} [] []).2 _ hprocess).1 [("limit", 1)]]

end FilterSet

end Intake
