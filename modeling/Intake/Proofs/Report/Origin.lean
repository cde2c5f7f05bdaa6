import Intake.Proofs.Cast.Success
import Intake.Proofs.Processing
import Intake.Registry.Builtin

/-!
# Issues that defaults cause

The default of a hash filter goes under the hash that is given, entry by entry, and only then are
the fields cast.  So an entry of the default may be at fault where the report tells of the input:
`blames_default_point`.  This is so unless the fields cast the entries of the default that stand in
for absent ones (`blamesInput_iff`), as they do where the default passes its own filter
(`blamesInput_of_default`).
-/

namespace Intake

/-- Issues below a key of a filter are of a key that was given, or of one that the default lacks. -/
def Report.BlamesInput (report : Report) (name : String)
    (entries defaults : Entries Value) : Prop :=
  ∀ issue ∈ report, ∀ key rest, issue.path = ⟨name, .key key :: rest⟩ →
    key ∈ entries.keys ∨ key ∉ defaults.keys

namespace Filter

/-- Fields cast the entries of a default that stand in for absent ones. -/
def CastStandIns (ctx : Context) (drawn : Nat) (fields : List Filter)
    (entries defaults : Entries Value) : Prop :=
  ∀ field ∈ fields, field.name ∉ entries.keys → ∀ value, defaults.get? field.name = some value →
    ∃ result, field.cast ctx drawn value = .ok result

variable {ctx : Context} {drawn : Nat} {head : Head} {fields : List Filter}
  {entries defaults : Entries Value}

/-- What is found under a key that is not given is the entry of the default. -/
theorem value_merged_of_notMem
    (default : head.options.default = some (.fixed (.hash defaults))) {key : String}
    (hk : key ∉ entries.keys) : (head.merged drawn entries).value key = defaults.value key := by
  have hmerged : head.merged drawn entries = Entries.insertAll defaults entries := by
    rw [Head.merged, default]
    rfl
  rw [Entries.value, hmerged, Entries.get?_insertAll_of_notMem _ _ hk, Entries.value]

/-- There is an issue below a key if and only if a field of that name rejects what is there. -/
theorem exists_issue_below_iff (nonempty : fields ≠ []) {key : String} :
    (∃ issue ∈ ((hash head fields).judge ctx drawn (.hash entries)).issues, ∃ rest,
        issue.path = ⟨head.name, .key key :: rest⟩) ↔
      ∃ field ∈ fields, field.name = key ∧
        ¬∃ result, field.cast ctx drawn ((head.merged drawn entries).value key) = .ok result := by
  -- a hash filter reports nothing of its own, and never just its first issue
  have hissues : ((hash head fields).judge ctx drawn (.hash entries)).issues =
      (hash head fields).partIssues ctx drawn false (.hash entries) := by
    cases fields with
    | nil => exact absurd rfl nonempty
    | cons field rest =>
      have hpromotes : (hash head (field :: rest)).promotes ctx = false := rfl
      rw [Verdict.issues, flatten_false_judge rfl, hpromotes, if_neg Bool.false_ne_true]
  rw [hissues, partIssues, parts]
  simp only [List.mem_flatMap, List.mem_map]
  constructor
  · rintro ⟨issue, ⟨part, ⟨field, hf, rfl⟩, inner, hi, rfl⟩, rest, hpath⟩
    obtain rfl : field.name = key := by
      rw [Issue.under, Path.mk.injEq, List.cons.injEq, Segment.key.injEq] at hpath
      exact hpath.2.1
    refine ⟨field, hf, rfl, fun hcast => ?_⟩
    rw [← issues_eq_nil_iff] at hcast
    exact List.ne_nil_of_mem hi hcast
  · rintro ⟨field, hf, rfl, hcast⟩
    rw [← issues_eq_nil_iff] at hcast
    obtain ⟨inner, hi⟩ := List.exists_mem_of_ne_nil _ hcast
    exact ⟨_, ⟨_, ⟨field, hf, rfl⟩, inner, hi, rfl⟩, inner.path.segments, rfl⟩

/-- The issues of a hash filter blame the input if and only if the fields cast what stands in. -/
theorem blamesInput_issues_iff (nonempty : fields ≠ [])
    (default : head.options.default = some (.fixed (.hash defaults))) :
    Report.BlamesInput ((hash head fields).judge ctx drawn (.hash entries)).issues head.name entries
        defaults ↔
      CastStandIns ctx drawn fields entries defaults := by
  constructor
  · intro h field hf habsent value hvalue
    by_contra hcast
    have hfound : (head.merged drawn entries).value field.name = value := by
      rw [value_merged_of_notMem default habsent, Entries.value_of_get? hvalue]
    rw [← hfound] at hcast
    obtain ⟨issue, hi, rest, hpath⟩ :=
      (exists_issue_below_iff nonempty).mpr ⟨field, hf, rfl, hcast⟩
    rcases h issue hi field.name rest hpath with hgiven | hlacks
    · exact habsent hgiven
    · rw [← Entries.get?_eq_none_iff, hvalue] at hlacks
      exact absurd hlacks (by simp)
  · intro h issue hi key rest hpath
    by_contra hkey
    rw [not_or, not_not] at hkey
    obtain ⟨habsent, hdefaults⟩ := hkey
    obtain ⟨field, hf, rfl, hcast⟩ := (exists_issue_below_iff nonempty).mp ⟨issue, hi, rest, hpath⟩
    cases hvalue : defaults.get? field.name with
    | none => exact Entries.get?_eq_none_iff.mp hvalue hdefaults
    | some value =>
      rw [value_merged_of_notMem default habsent, Entries.value_of_get? hvalue] at hcast
      exact hcast (h field hf habsent value hvalue)

/-- A fixed default passes if the filter casts it. -/
theorem default_eq_ok_iff {filter : Filter} {raw value : Value}
    (default : filter.options.default = some (.fixed raw)) :
    filter.default ctx drawn = .ok value ↔ filter.cast ctx (drawn + 1) raw = .ok value := by
  unfold Filter.default
  simp only [default, Default.resolve]
  cases filter.cast ctx (drawn + 1) raw with
  | ok result => simp
  | error error => simp

/-- Where the default passes its own filter, the fields cast all of its entries. -/
theorem castStandIns_of_default (nonempty : fields ≠ [])
    (default : head.options.default = some (.fixed (.hash defaults)))
    (fixed : (hash head fields).FixedDefaults) (ascending : defaults.Ascending) {n : Nat}
    {value : Value} (passes : (hash head fields).default ctx n = .ok value) :
    CastStandIns ctx drawn fields entries defaults := by
  -- under itself the default is what it is
  have hmerged : head.merged (n + 1) defaults = defaults := by
    rw [Head.merged, default]
    exact ascending.insertAll_eq ascending fun key hk => hk
  have hdefault : (hash head fields).options.default = some (.fixed (.hash defaults)) := default
  rw [default_eq_ok_iff hdefault, cast_eq_ok_iff_castsTo] at passes
  cases passes with
  | hash => exact absurd rfl nonempty
  | fields give _ casts =>
    intro field hf _ found hfound
    have hfield := casts field hf
    rw [hmerged, Entries.value_of_get? hfound] at hfield
    rw [cast, judge_of_fixed field (fixed.child hf) drawn (n + 1)]
    exact ⟨_, hfield⟩

/-- A hash is never cleaned to a default. -/
theorem clean_hash_ne_definition (error : DefinitionError) :
    (hash head fields).clean ctx drawn (.hash entries) ≠ .error (.definition error) := by
  intro h
  rw [clean] at h
  split at h
  · exact absurd h (by simp)
  · next cleaned hcast =>
    have hneeds : (hash head fields).needsDefault cleaned = false := by
      cases cast_eq_ok_iff_castsTo.mp hcast with
      | hash => rfl
      | fields => rfl
    rw [hneeds, if_neg Bool.false_ne_true] at h
    exact absurd h (by simp)

end Filter

namespace FilterSet

variable {set : FilterSet} {head : Head} {fields : List Filter} {ctx : Context} {tally : Tally}
  {entries defaults inputs : Entries Value}

/-- A report blames the input for what is below a hash filter if and only if its fields cast the
entries of the default that stand in for absent ones. -/
theorem blamesInput_validate_iff (filter : Filter.hash head fields ∈ set.filters)
    (nonempty : fields ≠ []) (default : head.options.default = some (.fixed (.hash defaults)))
    (given : inputs.get? head.name = some (.hash entries)) :
    (set.validate ctx tally inputs).BlamesInput head.name entries defaults ↔
      Filter.CastStandIns ctx (tally.drawn head.name) fields entries defaults := by
  have hissues : (Filter.hash head fields).validate ctx tally inputs =
      ((Filter.hash head fields).judge ctx (tally.drawn head.name) (.hash entries)).issues := by
    rw [Filter.validate, Filter.name, Filter.head, Entries.value_of_get? given]
  rw [← Filter.blamesInput_issues_iff nonempty default, ← hissues]
  constructor
  · intro h issue hi
    exact h issue (List.mem_flatMap.mpr ⟨_, filter, hi⟩)
  · intro h issue hi key rest hpath
    exact h issue ((mem_validate_iff_of_root filter (by rw [hpath]; rfl)).mp hi) key rest hpath

/-- **Where the default passes its own filter, reports blame the input**, whatever hash is given. -/
theorem blamesInput_of_default (filter : Filter.hash head fields ∈ set.filters)
    (nonempty : fields ≠ []) (default : head.options.default = some (.fixed (.hash defaults)))
    (fixed : (Filter.hash head fields).FixedDefaults) (ascending : defaults.Ascending) {n : Nat}
    {value : Value} (passes : (Filter.hash head fields).default ctx n = .ok value)
    (given : inputs.get? head.name = some (.hash entries)) :
    (set.validate ctx tally inputs).BlamesInput head.name entries defaults :=
  (blamesInput_validate_iff filter nonempty default given).mpr
    (Filter.castStandIns_of_default nonempty default fixed ascending passes)

/-- **A report blames the input if and only if the fields cast the entries that stand in**, and no
default that fails is told in its place. -/
theorem blamesInput_iff (filter : Filter.hash head fields ∈ set.filters)
    (nonempty : fields ≠ []) (default : head.options.default = some (.fixed (.hash defaults)))
    (given : inputs.get? head.name = some (.hash entries)) (ctx : Context) (tally : Tally) :
    ((set.validate ctx tally inputs).BlamesInput head.name entries defaults ↔
      Filter.CastStandIns ctx (tally.drawn head.name) fields entries defaults) ∧
    (∀ outcome, set.process ctx tally inputs = .ok outcome →
      (outcome.report.BlamesInput head.name entries defaults ↔
        Filter.CastStandIns ctx (tally.drawn head.name) fields entries defaults)) ∧
    (Filter.hash head fields).failure? ctx tally inputs = none := by
  have hvalidate : (set.validate ctx tally inputs).BlamesInput head.name entries defaults ↔
      Filter.CastStandIns ctx (tally.drawn head.name) fields entries defaults :=
    blamesInput_validate_iff filter nonempty default given
  refine ⟨hvalidate, fun outcome h => ?_, ?_⟩
  · rw [(of_process_eq_ok h).2.1]
    exact hvalidate
  · rw [Filter.failure?_eq_none_iff]
    rw [Filter.cleanInput, Filter.name, Filter.head, Entries.value_of_get? given]
    exact Filter.clean_hash_ne_definition

def originHead : Head :=
  ⟨"origin", "hash", { default := some (.fixed (.hash [("x", .integer 0)])) }⟩

/-- The fields of an origin; its height is not given by default. -/
def originFields : List Filter :=
  [.scalar ⟨"x", "integer", {}⟩ .integer, .scalar ⟨"height", "integer", {}⟩ .integer]

def planeFilters : FilterSet where
  filters := [.hash originHead originFields]
  nodup := by decide

theorem blamesInput_iff_plane :
    planeFilters.validate {} [] [("origin", .hash [])] =
      [⟨⟨"origin", [.key "height"]⟩, .missing, [], some "height"⟩] ∧
    (planeFilters.validate {} [] [("origin", .hash [])]).BlamesInput "origin" []
      [("x", .integer 0)] := by
  have filter : Filter.hash originHead originFields ∈ planeFilters.filters := List.mem_cons_self
  have nonempty : originFields ≠ [] := by simp [originFields]
  have hstandIns : Filter.CastStandIns {} 0 originFields [] [("x", .integer 0)] := by
    intro field hf _ value hvalue
    rcases List.mem_pair.mp hf with rfl | rfl
    · obtain rfl : Value.integer 0 = value := Option.some.inj hvalue
      exact ⟨.integer 0, rfl⟩
    · exact absurd hvalue (by simp [Entries.get?, Filter.name, Filter.head])
  exact ⟨rfl, (blamesInput_iff filter nonempty rfl rfl {} []).1.mpr hstandIns⟩

/-! ### A default at fault -/

/-- A point whose default has a text for a number. -/
def pointDeclarations : List Declaration :=
  [⟨"hash", some "point", { default := some (.fixed (.hash [("x", .string "zero")])) },
    [⟨"integer", some "x", {}, []⟩]⟩]

def pointFilters : FilterSet where
  filters :=
    [.hash ⟨"point", "hash", { default := some (.fixed (.hash [("x", .string "zero")])) }⟩
      [.scalar ⟨"x", "integer", {}⟩ .integer]]
  nodup := by decide

/-- An empty hash is given, and is told to be wrong where only the default is. -/
theorem blames_default_point :
    build Registry.builtin pointDeclarations = .ok pointFilters ∧
    pointFilters.process {} [] [("point", .hash [])] =
      .ok ⟨[("point", .nil)], pointFilters.validate {} [] [("point", .hash [])]⟩ ∧
    ¬(pointFilters.validate {} [] [("point", .hash [])]).BlamesInput "point" []
      [("x", .string "zero")] := by
  refine ⟨rfl, rfl, fun h => ?_⟩
  have hissue : ⟨⟨"point", [.key "x"]⟩, .invalidType, [("type", "integer")], some "x"⟩ ∈
      pointFilters.validate {} [] [("point", .hash [])] :=
    List.mem_singleton_self _
  rcases h _ hissue "x" [] rfl with hgiven | hlacks
  · exact absurd hgiven (by decide)
  · exact absurd hlacks (by decide)

end FilterSet

end Intake
