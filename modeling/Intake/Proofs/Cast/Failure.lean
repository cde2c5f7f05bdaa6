import Intake.Proofs.Cast.Success
import Intake.Proofs.Report.Position

/-!
# Failing casts

`FailsWith` says how a cast can fail, a rule for each kind of error, and
`cast_eq_error_iff_failsWith` that there is no other way.  `cast_error_classified` tells from it
which inputs lead to which error; a kind of the host is taken to leave nil to the rule that is
common to all kinds.
-/

namespace Intake

theorem Value.isNil_iff {value : Value} : value.isNil = true ↔ value = .nil := by
  cases value with
  | nil => exact iff_of_true rfl rfl
  | _ => exact iff_of_false Bool.false_ne_true (by simp)

theorem Head.fallback_eq_error_iff {head : Head} {value : Value} {error : CastError} :
    head.fallback value = .error error ↔
      value = .nil ∧ head.options.acceptsNil = false ∧ error = .missing head.name ∨
        value ≠ .nil ∧ error = .invalid head.name value := by
  unfold fallback
  split
  · next hnil =>
    rw [Value.isNil_iff] at hnil
    cases head.options.acceptsNil with
    | true => simp [hnil]
    | false => simp [hnil, eq_comm (a := error)]
  · next hnil =>
    rw [Value.isNil_iff] at hnil
    simp [hnil, eq_comm (a := error)]

namespace Filter

/-- A value is a container whose parts a filter casts. -/
inductive Nests : Filter → Value → Prop where
  | items (head : Head) (element : Filter) (items : List Value) :
      Nests (arrayOf head element) (.array items)
  | fields (head : Head) {fields : List Filter} (nonempty : fields ≠ [])
      (entries : Entries Value) : Nests (hash head fields) (.hash entries)

/-- What a cast fails with. -/
inductive FailsWith (ctx : Context) (drawn : Nat) (filter : Filter) : Value → CastError → Prop where
  | missing (required : filter.acceptsNil = false) (unread : filter.takes ctx .nil = false) :
      FailsWith ctx drawn filter .nil (.missing filter.name)
  | invalid {value : Value} (notNil : value ≠ .nil) (refused : filter.takes ctx value = false) :
      FailsWith ctx drawn filter value (.invalid filter.name value)
  | nested {value : Value} {first : Issue} {rest : Report} (nests : filter.Nests value)
      (issues : (filter.judge ctx drawn value).flatten true = first :: rest) :
      FailsWith ctx drawn filter value
        (.nested filter.name first.path (filter.judge ctx drawn value).value)

variable {ctx : Context} {drawn : Nat} {filter : Filter} {value : Value}

theorem Nests.takes (h : filter.Nests value) (ctx : Context) : filter.takes ctx value = true := by
  cases h with
  | items => rfl
  | fields => rfl

theorem Nests.error? (h : filter.Nests value) : (filter.judge ctx drawn value).error? = none := by
  rw [error?_judge, h.takes ctx, if_pos rfl]

theorem Nests.cast_eq_error_iff (h : filter.Nests value) {error : CastError} :
    filter.cast ctx drawn value = .error error ↔
      ∃ first rest, (filter.judge ctx drawn value).flatten true = first :: rest ∧
        error = .nested filter.name first.path (filter.judge ctx drawn value).value := by
  constructor
  · exact nested_of_cast_eq_error h.error?
  · rintro ⟨first, rest, hf, rfl⟩
    rw [cast, Verdict.result_of_cons h.error? hf, head_judge]
    rfl

theorem Nests.cast_eq_error_iff_failsWith (h : filter.Nests value) {error : CastError} :
    filter.cast ctx drawn value = .error error ↔ FailsWith ctx drawn filter value error := by
  rw [h.cast_eq_error_iff]
  constructor
  · rintro ⟨first, rest, hf, rfl⟩
    exact .nested h hf
  · intro hfails
    cases hfails with
    | missing _ unread => exact absurd (h.takes ctx) (by simp [unread])
    | invalid _ refused => exact absurd (h.takes ctx) (by simp [refused])
    | nested _ issues => exact ⟨_, _, issues, rfl⟩

/-- **There is no other way for a cast to fail.** -/
theorem cast_eq_error_iff_failsWith {error : CastError} :
    filter.cast ctx drawn value = .error error ↔ FailsWith ctx drawn filter value error := by
  cases filter.judged ctx drawn value with
  | refused htakes hparts hjudge =>
    rw [cast, hjudge, Verdict.result_leaf, Head.fallback_eq_error_iff]
    constructor
    · rintro (⟨rfl, hrequired, rfl⟩ | ⟨hnil, rfl⟩)
      · exact .missing hrequired htakes
      · exact .invalid hnil htakes
    · intro h
      cases h with
      | missing required => exact Or.inl ⟨rfl, required, rfl⟩
      | invalid notNil => exact Or.inr ⟨notNil, rfl⟩
      | nested nests => exact absurd (nests.takes ctx) (by simp [htakes])
  | whole result htakes hparts hjudge =>
    rw [cast, hjudge, Verdict.result_leaf]
    refine iff_of_false (by simp) fun h => ?_
    cases h with
    | missing _ unread => exact absurd htakes (by simp [unread])
    | invalid _ refused => exact absurd htakes (by simp [refused])
    | nested _ issues =>
      rw [hjudge] at issues
      exact absurd issues (by simp [Verdict.flatten])
  | items head element items => exact (Nests.items head element items).cast_eq_error_iff_failsWith
  | fields head field rest entries =>
    exact (Nests.fields head (List.cons_ne_nil field rest) entries).cast_eq_error_iff_failsWith

theorem required_of_missing {name : String}
    (h : filter.cast ctx drawn value = .error (.missing name)) : filter.acceptsNil = false := by
  cases cast_eq_error_iff_failsWith.mp h with
  | missing required => exact required

/-- A kind of the host, if the filter is of one, does not read nil. -/
theorem takes_nil_of_host
    (hosts : ∀ head read, filter = scalar head (.host read) → read ctx .nil = none) :
    filter.takes ctx .nil = false := by
  cases hhost : filter.isHost with
  | false => exact takes_nil hhost
  | true =>
    unfold isHost at hhost
    split at hhost
    · next head read => rw [takes, Scalar.read, hosts head read rfl, Option.isSome_none]
    · exact absurd hhost (by simp)

/-- Which errors the cast of a value may end with, and when. -/
structure Classified (ctx : Context) (drawn : Nat) (filter : Filter) (value : Value) : Prop where
  /-- A value is missing if it is nil and the filter has no default and does not allow nil. -/
  missing : ∀ name, filter.cast ctx drawn value = .error (.missing name) ↔
    name = filter.name ∧ value = .nil ∧
      filter.options.default.isSome = false ∧ filter.options.allowNil = false
  /-- Otherwise nil is cast to nil. -/
  nil : value = .nil → filter.options.default.isSome = true ∨ filter.options.allowNil = true →
    filter.cast ctx drawn value = .ok .nil
  /-- An error is nested if some position below the value is rejected. -/
  nested : (∃ name path partly, filter.cast ctx drawn value = .error (.nested name path partly)) ↔
    filter.Nests value ∧ ∃ step path node found kind options,
      Leads drawn filter value (step :: path) node found ∧ node.Rejects ctx found kind options
  /-- Any other error tells that the value is invalid, and shows it as it was given. -/
  invalid : ∀ error, filter.cast ctx drawn value = .error error →
    (∀ name, error ≠ .missing name) → (∀ name path partly, error ≠ .nested name path partly) →
      error = .invalid filter.name value ∧
        error.message = filter.name ++ ": invalid value " ++ value.text
  /-- Every error is told under the name of the filter. -/
  name : ∀ error, filter.cast ctx drawn value = .error error → error.name = filter.name

theorem acceptsNil_eq_false_iff : filter.acceptsNil = false ↔
    filter.options.default.isSome = false ∧ filter.options.allowNil = false := by
  rw [acceptsNil, Options.acceptsNil, Options.isOptional, Bool.or_eq_false_iff]

theorem nested_iff (hnil : ∀ node ∈ filter.nodes, node.takes ctx .nil = false) :
    (∃ name path partly, filter.cast ctx drawn value = .error (.nested name path partly)) ↔
      filter.Nests value ∧ ∃ step path node found kind options,
        Leads drawn filter value (step :: path) node found ∧
          node.Rejects ctx found kind options := by
  simp only [cast_eq_error_iff_failsWith]
  constructor
  · rintro ⟨name, path, partly, h⟩
    cases h with
    | nested nests issues =>
      have hne : (filter.judge ctx drawn value).flatten true ≠ [] := by
        rw [issues]
        exact List.cons_ne_nil _ _
      rw [flatten_true_ne_nil_iff hnil] at hne
      obtain ⟨path, node, found, kind, options, hleads, hrejects⟩ := hne
      cases path with
      | cons step path => exact ⟨nests, step, path, node, found, kind, options, hleads, hrejects⟩
      | nil =>
        -- a container of the right type is not rejected itself
        obtain ⟨rfl, rfl⟩ := leads_nil_iff.mp hleads
        obtain ⟨error, herror, _⟩ := (rejects_iff drawn (hnil _ (mem_nodes_self _))).mp hrejects
        rw [nests.error?] at herror
        exact absurd herror (by simp)
  · rintro ⟨nests, step, path, node, found, kind, options, hleads, hrejects⟩
    have hne : (filter.judge ctx drawn value).flatten true ≠ [] :=
      (flatten_true_ne_nil_iff hnil).mpr ⟨_, node, found, kind, options, hleads, hrejects⟩
    obtain ⟨first, rest, hf⟩ := List.exists_cons_of_ne_nil hne
    exact ⟨_, _, _, .nested nests hf⟩

theorem classified (hnil : ∀ node ∈ filter.nodes, node.takes ctx .nil = false) (drawn : Nat)
    (value : Value) : Classified ctx drawn filter value := by
  have hself := hnil filter filter.mem_nodes_self
  refine ⟨fun name => ?_, ?_, nested_iff hnil, ?_, ?_⟩
  · rw [cast_eq_error_iff_failsWith, ← acceptsNil_eq_false_iff]
    constructor
    · intro h
      cases h with
      | missing required => exact ⟨rfl, rfl, required⟩
    · rintro ⟨rfl, rfl, required⟩
      exact .missing required hself
  · rintro rfl haccepts
    refine cast_eq_ok_iff_castsTo.mpr (.nil ?_ hself)
    rw [acceptsNil, Options.acceptsNil, Options.isOptional, Bool.or_eq_true]
    exact haccepts
  · intro error h hmissing hnested
    cases cast_eq_error_iff_failsWith.mp h with
    | missing => exact absurd rfl (hmissing _)
    | invalid => exact ⟨rfl, rfl⟩
    | nested => exact absurd rfl (hnested _ _ _)
  · intro error h
    cases cast_eq_error_iff_failsWith.mp h with
    | missing => rfl
    | invalid => rfl
    | nested => rfl

/-- A default is not missing: its filter accepts nil. -/
theorem default_ne_missing {name missing : String} {value : Value} :
    filter.default ctx drawn ≠ .error (.invalidDefault name value (some (.missing missing))) := by
  intro h
  rw [default] at h
  split at h
  · exact absurd h (by simp)
  · next default hdefault =>
    dsimp only at h
    split at h
    · exact absurd h (by simp)
    · next error herror =>
      rw [Except.error.injEq, DefinitionError.invalidDefault.injEq] at h
      obtain ⟨_, _, hsource⟩ := h
      obtain rfl := Option.some.inj hsource
      have hnone := (acceptsNil_eq_false_iff.mp (required_of_missing herror)).1
      rw [hdefault] at hnone
      exact absurd hnone (by simp)

/-- **The value and the filter tell whether a cast fails and with which kind of error**, and a
default never fails as missing. -/
theorem cast_error_classified
    (hosts : ∀ head read, scalar head (.host read) ∈ filter.nodes → read ctx .nil = none)
    (drawn : Nat) :
    (∀ value, Classified ctx drawn filter value) ∧
    ∀ name value missing,
      filter.default ctx drawn ≠ .error (.invalidDefault name value (some (.missing missing))) := by
  have hnil : ∀ node ∈ filter.nodes, node.takes ctx .nil = false := by
    intro node hn
    refine takes_nil_of_host fun head read hnode => ?_
    subst hnode
    exact hosts head read hn
  exact ⟨classified hnil drawn,
    fun name value missing => default_ne_missing⟩

/-- A kind of the host that takes strings as they are. -/
def readCode (_ : Context) : Value → Option Value
  | .string s => some (.string s)
  | _ => none

/-- The filter of an account: a code of a kind of the host, and numbers. -/
def accountFilter : Filter :=
  .hash ⟨"account", "hash", {}⟩
    [.scalar ⟨"code", "code", { allowNil := true }⟩ (.host readCode),
      .arrayOf ⟨"numbers", "array", {}⟩ (.scalar ⟨"numbers", "integer", {}⟩ .integer)]

theorem cast_error_classified_account :
    (∀ head read, scalar head (.host read) ∈ accountFilter.nodes → read {} .nil = none) ∧
    accountFilter.cast {} 0 .nil = .error (.missing "account") ∧
    ∃ name path partly,
      accountFilter.cast {} 0 (.hash [("numbers", .array [.integer 1, .string "x"])]) =
        .error (.nested name path partly) := by
  have hosts : ∀ head read, scalar head (.host read) ∈ accountFilter.nodes →
      read {} .nil = none := by
    intro head read hn
    obtain ⟨_, rfl⟩ : head = ⟨"code", "code", { allowNil := true }⟩ ∧ read = readCode := by
      simpa [accountFilter, nodes, nodesOf] using hn
    rfl
  have hclassified := (cast_error_classified hosts 0).1
  refine ⟨hosts, ((hclassified .nil).missing "account").mpr ⟨rfl, rfl, rfl, rfl⟩, ?_⟩
  refine (hclassified _).nested.mpr ⟨.fields _ (by simp) _, .key "numbers", [.index 1],
    .scalar ⟨"numbers", "integer", {}⟩ .integer, .string "x", .invalidType, _, ?_,
    .invalidType rfl rfl⟩
  exact .key (List.mem_cons_of_mem _ List.mem_cons_self) (.index rfl (.here _ _))

end Filter

end Intake
