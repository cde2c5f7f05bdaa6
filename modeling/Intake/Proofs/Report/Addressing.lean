import Intake.Proofs.Cast.Agreement
import Intake.Proofs.Processing

/-!
# Policies only address

Whether arrays report by index is up to the policy and to an option of each array.  Neither makes a
difference to what is cast, to what is cleaned, to a default or to which filters have issues:
`process_eq_of_unindexed`.  It is only where and how often an issue is told that depends on them.

Filters that differ in nothing but these options are the same without them (`unindexed`).  A verdict
agrees with the one without the options, under any policy (`judge_agrees_unindexed`).
-/

namespace Intake

/-- A head without the option that overrides the policy. -/
def Head.unindexed (head : Head) : Head :=
  { head with options := { head.options with indexErrors := none } }

theorem Head.alike_unindexed (head : Head) : head.Alike head.unindexed :=
  ⟨rfl, rfl, rfl, fun _ => rfl⟩

/-- A kind of the built-in ones reads the zone of a context and nothing else of it. -/
theorem Scalar.read_eq_of_zone {ctx ctx' : Context} (zone : ctx.zone = ctx'.zone) {rule : Scalar}
    (host : ∀ read, rule = .host read → read ctx = read ctx') (value : Value) :
    rule.read ctx value = rule.read ctx' value := by
  have heffective : ctx.effectiveZone = ctx'.effectiveZone := by
    rw [Context.effectiveZone, Context.effectiveZone, zone]
  cases rule with
  | time layout => rw [Scalar.read, Scalar.read, heffective]
  | host read => exact congrFun (host read rfl) value
  | _ => rfl

namespace Filter

mutual

def unindexed : Filter → Filter
  | scalar head rule => scalar head.unindexed rule
  | array head => array head.unindexed
  | arrayOf head element => arrayOf head.unindexed element.unindexed
  | hash head fields => hash head.unindexed (unindexedAll fields)

def unindexedAll : List Filter → List Filter
  | [] => []
  | filter :: rest => filter.unindexed :: unindexedAll rest

end

theorem unindexedAll_eq_map (filters : List Filter) :
    unindexedAll filters = filters.map unindexed := by
  induction filters with
  | nil => rfl
  | cons filter rest ih => rw [unindexedAll, ih, List.map_cons]

theorem head_unindexed (filter : Filter) : filter.unindexed.head = filter.head.unindexed := by
  cases filter <;> rfl

theorem castDraws_unindexed (filter : Filter) (value : Value) :
    filter.unindexed.castDraws value = filter.castDraws value := by
  cases filter with
  | hash head fields => cases fields <;> cases value <;> rfl
  | _ => rfl

/-- The kinds of the host in a tree read values alike in two contexts.  Those that are pure read
nothing of a context but the zone. -/
def HostsAgree (ctx ctx' : Context) (filter : Filter) : Prop :=
  ∀ head read, scalar head (.host read) ∈ filter.nodes → read ctx = read ctx'

variable {ctx ctx' : Context} {a b filter : Filter}

theorem HostsAgree.node (h : filter.HostsAgree ctx ctx') {node : Filter}
    (hn : node ∈ filter.nodes) : node.HostsAgree ctx ctx' :=
  fun head read hb => h head read (mem_nodes_trans hb hn)

theorem HostsAgree.child (h : filter.HostsAgree ctx ctx') {child : Filter}
    (hc : child ∈ filter.children) : child.HostsAgree ctx ctx' :=
  h.node (mem_nodes_of_child hc child.mem_nodes_self)

theorem name_unindexed (filter : Filter) : filter.unindexed.name = filter.name := by
  rw [name, name, head_unindexed]
  rfl

/-- **A verdict agrees with the one without the options, under any policy.** -/
theorem judge_agrees_unindexed (zone : ctx.zone = ctx'.zone) (drawn : Nat) (filter : Filter) :
    filter.HostsAgree ctx ctx' → filter.JudgesAlike ctx ctx' drawn drawn filter.unindexed := by
  induction filter using Filter.ind with
  | step filter ih =>
    intro hosts
    refine ⟨(name_unindexed filter).symm, fun value => ?_⟩
    cases filter with
    | scalar head rule =>
      refine judge_scalar_agrees head.alike_unindexed ?_
      refine Scalar.read_eq_of_zone zone (fun read hr => ?_) value
      subst hr
      exact hosts head read (mem_nodes_self _)
    | array head => exact judge_array_agrees head.alike_unindexed value
    | arrayOf head element =>
      have hc : element ∈ (arrayOf head element).children := List.mem_singleton_self element
      exact judge_arrayOf_agrees head.alike_unindexed (ih element hc (hosts.child hc)) value
    | hash head fields =>
      have hfields : List.Forall₂ (JudgesAlike ctx ctx' drawn drawn) fields
          (unindexedAll fields) := by
        rw [unindexedAll_eq_map, List.forall₂_map_right_iff, List.forall₂_same]
        exact fun field hf => ih field hf (hosts.child hf)
      exact judge_hash_agrees head.alike_unindexed hfields value fun _ _ _ => rfl

/-! ### Filters that differ in the options -/

section Unindexed

variable (same : a.unindexed = b.unindexed)

include same

theorem head_eq_of_unindexed : a.head.unindexed = b.head.unindexed := by
  rw [← head_unindexed, ← head_unindexed, same]

theorem name_eq_of_unindexed : a.name = b.name := by
  have h : a.head.unindexed.name = b.head.unindexed.name := by rw [head_eq_of_unindexed same]
  exact h

theorem default_eq_of_unindexed : a.options.default = b.options.default := by
  have h : a.head.unindexed.options.default = b.head.unindexed.options.default := by
    rw [head_eq_of_unindexed same]
  exact h

variable (zone : ctx.zone = ctx'.zone) (hosts : a.HostsAgree ctx ctx')

include zone hosts

theorem cast_eq_of_unindexed (drawn : Nat) (value : Value) :
    a.cast ctx drawn value = b.cast ctx' drawn value := by
  have ha : a.cast ctx drawn value = a.unindexed.cast ctx' drawn value :=
    ((judge_agrees_unindexed zone drawn a hosts).judge value).result
  have hb : b.cast ctx' drawn value = b.unindexed.cast ctx' drawn value :=
    ((judge_agrees_unindexed rfl drawn b fun _ _ _ => rfl).judge value).result
  rw [ha, hb, same]

theorem resolve_eq_of_unindexed (drawn : Nat) : a.default ctx drawn = b.default ctx' drawn := by
  unfold Filter.default
  rw [default_eq_of_unindexed same, name_eq_of_unindexed same]
  cases b.options.default with
  | none => rfl
  | some default => simp only [cast_eq_of_unindexed same zone hosts]

theorem clean_eq_of_unindexed (drawn : Nat) (value : Value) :
    a.clean ctx drawn value = b.clean ctx' drawn value := by
  have hdraws : a.castDraws value = b.castDraws value := by
    rw [← castDraws_unindexed a, ← castDraws_unindexed b, same]
  have hneeds : ∀ v : Value, a.needsDefault v = b.needsDefault v := by
    intro v
    rw [needsDefault, needsDefault, isOptional, isOptional, Options.isOptional, Options.isOptional,
      default_eq_of_unindexed same]
  unfold clean
  rw [cast_eq_of_unindexed same zone hosts drawn value, hdraws]
  simp only [hneeds, resolve_eq_of_unindexed same zone hosts]

end Unindexed

/-! ### Filters that give the same -/

/-- Two filters, each in a context of its own, give the same, whatever was resolved before. -/
structure Interchangeable (ctx ctx' : Context) (a b : Filter) : Prop where
  name : a.name = b.name
  cast : ∀ (n m : Nat) (value : Value), a.cast ctx n value = b.cast ctx' m value
  clean : ∀ (n m : Nat) (value : Value), a.clean ctx n value = b.clean ctx' m value
  default : ∀ n m : Nat, a.default ctx n = b.default ctx' m

theorem interchangeable_of_unindexed (same : a.unindexed = b.unindexed) (zone : ctx.zone = ctx'.zone)
    (fixed : a.FixedDefaults) (hosts : a.HostsAgree ctx ctx') : a.Interchangeable ctx ctx' b where
  name := name_eq_of_unindexed same
  cast n m value := by rw [cast_of_fixed fixed n m, cast_eq_of_unindexed same zone hosts]
  clean n m value := by rw [clean_of_fixed fixed n m, clean_eq_of_unindexed same zone hosts]
  default n m := by rw [default_of_fixed fixed n m, resolve_eq_of_unindexed same zone hosts]

namespace Interchangeable

variable (h : a.Interchangeable ctx ctx' b) (tally tally' : Tally) (inputs : Entries Value)

include h

theorem cleanInput : a.cleanInput ctx tally inputs = b.cleanInput ctx' tally' inputs := by
  rw [Filter.cleanInput, Filter.cleanInput, h.name]
  exact h.clean _ _ _

theorem failure? : a.failure? ctx tally inputs = b.failure? ctx' tally' inputs := by
  rw [Filter.failure?, Filter.failure?, h.cleanInput tally tally' inputs]

theorem stored : a.stored ctx tally inputs = b.stored ctx' tally' inputs := by
  rw [Filter.stored, Filter.stored, h.cleanInput tally tally' inputs]

theorem validate_eq_nil_iff :
    a.validate ctx tally inputs = [] ↔ b.validate ctx' tally' inputs = [] := by
  rw [Filter.validate_eq_nil_iff, Filter.validate_eq_nil_iff, h.cleanInput tally tally' inputs]

end Interchangeable

end Filter

/-- Two reports tell of the same filters. -/
def Report.SameRoots (a b : Report) : Prop :=
  ∀ name, (∃ issue ∈ a, issue.path.root = name) ↔ ∃ issue ∈ b, issue.path.root = name

namespace FilterSet

variable {set set' : FilterSet} {ctx ctx' : Context} {tally tally' : Tally} {inputs : Entries Value}
  {filters filters' : List Filter}

/-- A run over interchangeable filters fails with the same error or stores the same values. -/
theorem map_values_processAll
    (h : List.Forall₂ (Filter.Interchangeable ctx ctx') filters filters') :
    ∀ {outcome outcome' : Outcome}, outcome.values = outcome'.values →
      (processAll ctx tally inputs filters outcome).map Outcome.values =
        (processAll ctx' tally' inputs filters' outcome').map Outcome.values := by
  induction h with
  | nil =>
    intro outcome outcome' hvalues
    rw [processAll, processAll, Except.map, Except.map, hvalues]
  | @cons a b _ _ hfirst _ ih =>
    intro outcome outcome' hvalues
    rw [processAll, processAll, Filter.process_eq, Filter.process_eq,
      hfirst.failure? tally tally' inputs]
    cases b.failure? ctx' tally' inputs with
    | some error => rfl
    | none =>
      refine ih ?_
      rw [hvalues, hfirst.name, hfirst.stored tally tally' inputs]

/-- The filters that a report tells of are those that reject their input. -/
theorem exists_root_iff (set : FilterSet) (name : String) :
    (∃ issue ∈ set.validate ctx tally inputs, issue.path.root = name) ↔
      ∃ filter ∈ set.filters, filter.name = name ∧ filter.validate ctx tally inputs ≠ [] := by
  constructor
  · rintro ⟨issue, hi, hroot⟩
    obtain ⟨filter, hf, hm⟩ := List.mem_flatMap.mp hi
    exact ⟨filter, hf, (Filter.root_of_mem_judge hm).symm.trans hroot, List.ne_nil_of_mem hm⟩
  · rintro ⟨filter, hf, rfl, hne⟩
    exact (exists_root_eq_iff hf).mpr hne

theorem exists_validate_ne_nil_iff (name : String)
    (h : List.Forall₂ (Filter.Interchangeable ctx ctx') filters filters') :
    (∃ filter ∈ filters, filter.name = name ∧ filter.validate ctx tally inputs ≠ []) ↔
      ∃ filter ∈ filters', filter.name = name ∧ filter.validate ctx' tally' inputs ≠ [] := by
  induction h with
  | nil => simp
  | @cons a b _ _ hfirst _ ih =>
    have hhead : (a.name = name ∧ a.validate ctx tally inputs ≠ []) ↔
        (b.name = name ∧ b.validate ctx' tally' inputs ≠ []) := by
      rw [hfirst.name, Ne, hfirst.validate_eq_nil_iff tally tally' inputs]
    simp only [List.exists_mem_cons_iff, ih, hhead]

theorem sameRoots_validate
    (h : List.Forall₂ (Filter.Interchangeable ctx ctx') set.filters set'.filters) :
    (set.validate ctx tally inputs).SameRoots (set'.validate ctx' tally' inputs) := by
  intro name
  rw [exists_root_iff, exists_root_iff]
  exact exists_validate_ne_nil_iff name h

theorem interchangeable_filters
    (same : set.filters.map Filter.unindexed = set'.filters.map Filter.unindexed)
    (zone : ctx.zone = ctx'.zone) (fixed : ∀ filter ∈ set.filters, filter.FixedDefaults)
    (hosts : ∀ filter ∈ set.filters, filter.HostsAgree ctx ctx') :
    List.Forall₂ (Filter.Interchangeable ctx ctx') set.filters set'.filters := by
  rw [← List.forall₂_eq_eq_eq, List.forall₂_map_left_iff, List.forall₂_map_right_iff] at same
  have hmem : ∀ a ∈ set.filters, a ∈ set.filters := fun _ ha => ha
  have hall := (List.forall₂_and_left set.filters set'.filters).mpr ⟨hmem, same⟩
  exact hall.imp fun a b ⟨ha, hab⟩ =>
    Filter.interchangeable_of_unindexed hab zone (fixed a ha) (hosts a ha)

/-- **The policy and the options that override it only address.**  Two sets that differ in nothing
but the options, in contexts that differ in nothing but the policy, cast, clean and resolve alike at
every depth, process to the same values or the same error, and report on the same filters. -/
theorem policy_only_addresses
    (same : set.filters.map Filter.unindexed = set'.filters.map Filter.unindexed)
    (zone : ctx.zone = ctx'.zone) (fixed : ∀ filter ∈ set.filters, filter.FixedDefaults)
    (hosts : ∀ filter ∈ set.filters, filter.HostsAgree ctx ctx') :
    (∀ filter ∈ set.filters, ∀ node ∈ filter.nodes, ∀ other : Filter,
      node.unindexed = other.unindexed → node.Interchangeable ctx ctx' other) ∧
    ∀ (tally tally' : Tally) (inputs : Entries Value),
      (set.process ctx tally inputs).map Outcome.values =
        (set'.process ctx' tally' inputs).map Outcome.values ∧
      (set.validate ctx tally inputs).SameRoots (set'.validate ctx' tally' inputs) ∧
      ∀ outcome outcome', set.process ctx tally inputs = .ok outcome →
        set'.process ctx' tally' inputs = .ok outcome' →
          outcome.report.SameRoots outcome'.report := by
  have hfilters := interchangeable_filters same zone fixed hosts
  constructor
  · intro filter hf node hn other hother
    exact Filter.interchangeable_of_unindexed hother zone ((fixed filter hf).node hn)
      ((hosts filter hf).node hn)
  · intro tally tally' inputs
    refine ⟨map_values_processAll hfilters rfl, sameRoots_validate hfilters, ?_⟩
    intro outcome outcome' h h'
    rw [(of_process_eq_ok h).2.1, (of_process_eq_ok h').2.1]
    exact sameRoots_validate hfilters

/-- A table of numbers whose rows may be reported by index, and a limit with a default. -/
def numberFilters (byIndex : Option Bool) : FilterSet where
  filters :=
    [.arrayOf ⟨"table", "array", {}⟩
        (.arrayOf ⟨"table", "array", { indexErrors := byIndex }⟩
          (.scalar ⟨"table", "integer", {}⟩ .integer)),
      .scalar ⟨"limit", "integer", { default := some (.fixed (.integer 10)) }⟩ .integer]
  nodup := by
    have hnames : ["table", "limit"].Nodup := by decide
    exact hnames

def brokenTable : Entries Value :=
  [("table", .array [.array [.integer 1], .array [.string "a", .string "b"]])]

theorem policy_only_addresses_table :
    ((numberFilters none).validate {} [] brokenTable).length = 1 ∧
    ((numberFilters (some true)).validate { policy := .indexQualified } [] brokenTable).length = 2 ∧
    ((numberFilters none).validate {} [] brokenTable).SameRoots
      ((numberFilters (some true)).validate { policy := .indexQualified } [] brokenTable) := by
  have hsame : (numberFilters none).filters.map Filter.unindexed =
      (numberFilters (some true)).filters.map Filter.unindexed := rfl
  have hfixed : ∀ filter ∈ (numberFilters none).filters, filter.FixedDefaults := by
    unfold Filter.FixedDefaults
    decide
  have hhosts : ∀ filter ∈ (numberFilters none).filters,
      filter.HostsAgree {} { policy := .indexQualified } := by
    intro filter hf head read hn
    simp only [numberFilters, List.mem_cons, List.not_mem_nil, or_false] at hf
    rcases hf with rfl | rfl
    · simp [Filter.nodes] at hn
    · simp [Filter.nodes] at hn
  have hzone : ({} : Context).zone = ({ policy := .indexQualified } : Context).zone := rfl
  refine ⟨rfl, rfl, ?_⟩
  exact ((policy_only_addresses hsame hzone hfixed hhosts).2 [] [] brokenTable).2.1

end FilterSet

end Intake
