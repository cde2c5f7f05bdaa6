import Intake.Proofs.Cast.Lazy
import Intake.Proofs.Processing

/-!
# The default of a hash is a merge

The default of a hash filter comes in at three places: nil is accepted for it, it is put under every
hash that is cast, and it is itself cast, then under itself.  All that comes of it is a shallow merge
(`default_merges`).  With a fixed default that is a hash, a filter with fields makes of a hash what
the filter without the default makes of the hash filled up with the entries of the default
(`matches_of_fills`), and nil is cleaned to what that filter casts the default to
(`clean_nil_eq_cast`).

An entry that is nil is an entry: what the default has under its key is not seen.
-/

namespace Intake

namespace Entries

variable {α : Type} {entries defaults filled : Entries α}

/-- Entries are filled up with defaults: under each of their keys stays what they have, be it nil,
and under every other key comes what the defaults have. -/
structure Fills (entries defaults filled : Entries α) : Prop where
  ascending : filled.Ascending
  given : ∀ key ∈ entries.keys, filled.get? key = entries.get? key
  absent : ∀ key, key ∉ entries.keys → filled.get? key = defaults.get? key

/-- There is a way to fill entries up. -/
theorem fills_insertAll (nodup : entries.keys.Nodup) (ascending : defaults.Ascending) :
    entries.Fills defaults (defaults.insertAll entries) where
  ascending := ascending_insertAll entries ascending
  given key hk := by
    obtain ⟨value, hvalue⟩ := Option.isSome_iff_exists.mp (contains_iff.mpr hk)
    rw [get?_insertAll _ _ _ nodup, hvalue, Option.some_or]
  absent _ hk := get?_insertAll_of_notMem _ _ hk

/-- There is no other way to fill them up. -/
theorem Fills.eq (h : entries.Fills defaults filled) (nodup : entries.keys.Nodup)
    (ascending : defaults.Ascending) : filled = defaults.insertAll entries := by
  have hmerged := fills_insertAll nodup ascending
  refine h.ascending.ext hmerged.ascending fun key => ?_
  by_cases hk : key ∈ entries.keys
  · rw [h.given key hk, hmerged.given key hk]
  · rw [h.absent key hk, hmerged.absent key hk]

end Entries

namespace Filter

/-- What one filter makes of a value, another one makes of another value: the same cast, the same
value and report of a verdict, the same cleaned value, and the same of inputs. -/
structure Matches (ctx : Context) (a b : Filter) (value value' : Value) : Prop where
  cast : ∀ n m, a.cast ctx n value = b.cast ctx m value'
  verdict : ∀ n m, (a.judge ctx n value).value = (b.judge ctx m value').value
  report : ∀ full n m,
    (a.judge ctx n value).flatten full = (b.judge ctx m value').flatten full
  clean : ∀ n m, a.clean ctx n value = b.clean ctx m value'
  process : ∀ tally later inputs inputs', Entries.value inputs a.name = value →
    Entries.value inputs' b.name = value' →
      a.process ctx tally inputs = b.process ctx later inputs'

variable {ctx : Context} {head : Head} {fields : List Filter} {default : Option Default}
  {entries defaults filled : Entries Value} {n m : Nat}

/-- Where the value of a verdict is a hash, and so not nil, no default is asked for. -/
theorem needsDefault_of_hash (filter : Filter) (output : Entries Value) :
    filter.needsDefault (.hash output) = false := rfl

/-- Filters match where their verdicts do, if these are of hashes. -/
theorem matches_of_verdict {a b : Filter} {value value' : Value}
    (cast : ∀ n m, a.cast ctx n value = b.cast ctx m value')
    (verdict : ∀ n m, (a.judge ctx n value).value = (b.judge ctx m value').value)
    (report : ∀ full n m,
      (a.judge ctx n value).flatten full = (b.judge ctx m value').flatten full)
    (output : ∀ m, ∃ entries, (b.judge ctx m value').value = .hash entries) :
    Matches ctx a b value value' := by
  refine ⟨cast, verdict, report, fun n m => ?_, ?_⟩
  · obtain ⟨entries, hentries⟩ := output m
    rw [clean, clean, cast n m]
    cases hc : b.cast ctx m value' with
    | error error => rfl
    | ok cleaned =>
      obtain rfl : cleaned = .hash entries := (cast_eq_ok_iff.mp hc).2.trans hentries
      simp only [needsDefault_of_hash, Bool.false_eq_true, if_false]
  · rintro tally later inputs inputs' rfl rfl
    obtain ⟨entries, hentries⟩ := output (later.drawn b.name)
    have hissues := report false (tally.drawn a.name) (later.drawn b.name)
    have hvalue := verdict (tally.drawn a.name) (later.drawn b.name)
    simp only [process, Verdict.issues, hissues, hvalue, hentries, needsDefault_of_hash,
      Bool.false_eq_true, if_false]

/-! ### The merge -/

variable (ctx) in
/-- Filters that differ in the default come to verdicts that differ in nothing but the head, if the
hashes are the same once the defaults are under them. -/
theorem judge_of_merged (nonempty : fields ≠ []) (fixed : ∀ field ∈ fields, field.FixedDefaults)
    (merged : head.merged n entries = (head.withDefault default).merged m filled) :
    ∃ output verdicts,
      (hash head fields).judge ctx n (.hash entries) = .hash head output verdicts ∧
      (hash (head.withDefault default) fields).judge ctx m (.hash filled) =
        .hash (head.withDefault default) output verdicts := by
  have hfields : judgeFields ctx n (head.merged n entries) fields =
      judgeFields ctx m (head.merged n entries) fields := by
    rw [judgeFields_eq_map, judgeFields_eq_map]
    refine List.map_congr_left fun field hf => ?_
    rw [judge_of_fixed field (fixed field hf) n m]
  cases fields with
  | nil => exact absurd rfl nonempty
  | cons field rest =>
    refine ⟨_, _, by rw [judge], ?_⟩
    rw [judge, ← merged, hfields]
    rfl

/-- With a default that is a hash, entries are cast as they are without it once filled up. -/
theorem matches_of_fills (nonempty : fields ≠ []) (fixed : ∀ field ∈ fields, field.FixedDefaults)
    (default : head.options.default = some (.fixed (.hash defaults)))
    (hdefaults : defaults.Ascending) (hentries : entries.Ascending)
    (fills : entries.Fills defaults filled) :
    Matches ctx (hash head fields) (hash (head.withDefault none) fields) (.hash entries)
      (.hash filled) := by
  -- without a default nothing is merged into what was filled up before
  have hmerged : ∀ n m, head.merged n entries = (head.withDefault none).merged m filled := by
    intro n m
    rw [Head.merged, default]
    exact (fills.eq hentries.nodup hdefaults).symm
  have hjudge := fun n m => judge_of_merged ctx nonempty fixed (hmerged n m)
  refine matches_of_verdict (fun n m => cast_fields_withDefault nonempty fixed (hmerged n m))
    (fun n m => ?_) (fun full n m => ?_) fun m => ?_
  · obtain ⟨output, verdicts, ha, hb⟩ := hjudge n m
    rw [ha, hb, Verdict.value, Verdict.value]
  · obtain ⟨output, verdicts, ha, hb⟩ := hjudge n m
    rw [ha, hb, Verdict.flatten, Verdict.flatten]
    rfl
  · obtain ⟨output, verdicts, _, hb⟩ := hjudge m m
    exact ⟨output, by rw [hb, Verdict.value]⟩

/-- The default is cast as it is without being put under itself. -/
theorem cast_default (fixed : ∀ field ∈ fields, field.FixedDefaults)
    (default : head.options.default = some (.fixed (.hash defaults)))
    (hdefaults : defaults.Ascending) (n m : Nat) :
    (hash head fields).cast ctx n (.hash defaults) =
      (hash (head.withDefault none) fields).cast ctx m (.hash defaults) := by
  by_cases hempty : fields = []
  · subst hempty
    rfl
  · -- the cast puts the default under itself, where nothing of it is seen
    refine cast_fields_withDefault hempty fixed ?_
    rw [Head.merged, default]
    exact hdefaults.insertAll_eq hdefaults fun _ hk => hk

/-- Nil is cleaned to what the default is cast to. -/
theorem clean_nil_eq_cast (fixed : ∀ field ∈ fields, field.FixedDefaults)
    (default : head.options.default = some (.fixed (.hash defaults)))
    (hdefaults : defaults.Ascending) (n m : Nat) :
    (hash head fields).clean ctx n .nil =
      ((hash (head.withDefault none) fields).cast ctx m (.hash defaults)).mapError fun error =>
        .definition (.invalidDefault head.name (.hash defaults) (some error)) := by
  have hdefault : (hash head fields).options.default = some (.fixed (.hash defaults)) := default
  rw [clean_nil_of_hash hdefault, default_eq_resolved hdefault, Default.resolve,
    cast_default fixed default hdefaults _ m]
  cases (hash (head.withDefault none) fields).cast ctx m (.hash defaults) with
  | ok value => rfl
  | error error => rfl

end Filter

namespace Declaration

variable {registry : Registry} {name : String} {declaration : Declaration} {filter : Filter}

def withoutDefault (declaration : Declaration) : Declaration :=
  { declaration with options := { declaration.options with default := none } }

/-- The filter of a hash declaration, with the default and without. -/
theorem exists_fields_of_hash (kind : registry.kind declaration.slug = .ok .hash)
    (built : declaration.buildAs registry name = .ok filter) :
    ∃ fields, filter = .hash ⟨name, declaration.slug, declaration.options⟩ fields ∧
      (fields = [] ↔ declaration.children = []) ∧
      declaration.withoutDefault.buildAs registry name = .ok (filter.withDefault none) := by
  cases built_of_buildAs built with
  | scalar other => exact absurd (kind.symm.trans other) (by simp)
  | array other => exact absurd (kind.symm.trans other) (by simp)
  | arrayOf other => exact absurd (kind.symm.trans other) (by simp)
  | @hash slug own options children fields _ build names =>
    refine ⟨fields, rfl, ?_, buildAs_of_built (.hash kind build names)⟩
    rw [← List.length_eq_zero_iff, ← build.length_eq, List.length_eq_zero_iff]

/-- **The default of a hash is a shallow merge.**  Of a hash that is given the filter makes what the
filter without the default makes of it once it is filled up; nil is cleaned to what that filter casts
the default to.  Without fields nothing is filled up. -/
theorem default_merges {defaults : Entries Value}
    (kind : registry.kind declaration.slug = .ok .hash)
    (built : declaration.buildAs registry name = .ok filter)
    (default : declaration.options.default = some (.fixed (.hash defaults)))
    (hdefaults : defaults.Ascending) (ctx : Context) :
    ∃ plain, declaration.withoutDefault.buildAs registry name = .ok plain ∧
      (declaration.children ≠ [] → ∀ entries : Entries Value, entries.Ascending →
        ∃ filled, entries.Fills defaults filled ∧
          filter.Matches ctx plain (.hash entries) (.hash filled)) ∧
      (∀ n m, filter.clean ctx n .nil = (plain.cast ctx m (.hash defaults)).mapError fun error =>
        .definition (.invalidDefault name (.hash defaults) (some error))) ∧
      (declaration.children = [] → ∀ (n : Nat) (entries : Entries Value),
        filter.cast ctx n (.hash entries) = .ok (.hash entries) ∧
        filter.clean ctx n (.hash entries) = .ok (.hash entries) ∧
        (filter.judge ctx n (.hash entries)).value = .hash entries ∧
        ∀ full, (filter.judge ctx n (.hash entries)).flatten full = []) := by
  obtain ⟨fields, rfl, hempty, hplain⟩ := exists_fields_of_hash kind built
  have fixed : ∀ field ∈ fields, field.FixedDefaults := by
    intro field hf node hn own hown
    rw [default_of_nested built field hf node hn] at hown
    exact absurd hown (by simp)
  refine ⟨_, hplain, fun nonempty entries hentries => ?_, fun n m => ?_, fun none n entries => ?_⟩
  · have fills := Entries.fills_insertAll hentries.nodup hdefaults
    rw [Ne, ← hempty] at nonempty
    exact ⟨_, fills, Filter.matches_of_fills nonempty fixed default hdefaults hentries fills⟩
  · exact Filter.clean_nil_eq_cast fixed default hdefaults n m
  · obtain rfl := hempty.mpr none
    exact ⟨rfl, rfl, rfl, fun _ => rfl⟩

def shortSpan : Entries Value :=
  [("start", .integer 1), ("stop", .integer 2)]

/-- An explicit nil hides the entry of the default, an absent key shows it. -/
theorem default_merges_shortSpan :
    Registry.builtin.kind "hash" = .ok .hash ∧
    (Filter.spanDeclaration (.fixed (.hash shortSpan))).buildAs Registry.builtin "span" =
      .ok (Filter.spanFilter (.fixed (.hash shortSpan))) ∧
    shortSpan.Ascending ∧ Entries.Ascending [("stop", Value.nil)] ∧
    (Filter.spanFilter (.fixed (.hash shortSpan))).cast {} 0 (.hash [("stop", .nil)]) =
      .error (.nested "span" ⟨"span", [.key "stop"]⟩
        (.hash [("start", .integer 1), ("stop", .nil)])) ∧
    (Filter.spanFilter (.fixed (.hash shortSpan))).clean {} 0 .nil = .ok (.hash shortSpan) := by
  have kind : Registry.builtin.kind "hash" = .ok .hash := by rfl
  have built := Filter.build_spanDeclaration (.fixed (.hash shortSpan))
  have hdefaults : shortSpan.Ascending := by
    have hkeys : ["start", "stop"].Pairwise (· < ·) := by decide
    exact hkeys
  have hentries : Entries.Ascending [("stop", Value.nil)] := List.pairwise_singleton _ _
  obtain ⟨plain, hplain, hmatches, hclean, _⟩ := default_merges kind built rfl hdefaults {}
  obtain rfl := Except.ok.inj hplain
  refine ⟨kind, built, hdefaults, hentries, ?_, hclean 0 0⟩
  obtain ⟨filled, fills, h⟩ := hmatches (List.cons_ne_nil _ _) _ hentries
  obtain rfl := fills.eq hentries.nodup hdefaults
  exact h.cast 0 0

end Declaration

end Intake
