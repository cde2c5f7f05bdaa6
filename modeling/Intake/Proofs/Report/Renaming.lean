import Intake.Proofs.Cast.Agreement
import Intake.Proofs.Filter.Renamed
import Intake.Proofs.Filter.WellFormed

/-!
# Renaming

A filter and the same one under another name come to verdicts that differ in the root of every
address, and in the name that an issue tells where no key leads to it: `judge_renames`.  It is the
root alone.  When an issue is put under an index or a key its root is written over, so that no old
name stays behind among the steps; the names that are told there are those of fields.

So what is cast and what is cleaned is the same, and so is the report but for its roots:
`renaming_keeps_all_but_root`.
-/

namespace Intake

/-- An issue at another root.  The filter that it comes from has the name of the root unless a key
leads to it. -/
structure Issue.Renamed (name name' : String) (a b : Issue) : Prop where
  root : a.path.root = name
  root' : b.path.root = name'
  segments : b.path.segments = a.path.segments
  kind : b.kind = a.kind
  options : b.options = a.options
  inherited : (∀ key, .key key ∉ a.path.segments) → a.filter = some name ∧ b.filter = some name'
  nested : ∀ key, .key key ∈ a.path.segments → b.filter = a.filter

/-- A cast error of a filter with another name. -/
def CastError.renamed (name : String) : CastError → CastError
  | missing _ => missing name
  | invalid _ value => invalid name value
  | nested _ path value => nested name ⟨name, path.segments⟩ value

variable {name name' slug : String} {options : Options}

theorem IssueKind.ofCast_renamed (error : CastError) :
    ofCast (error.renamed name') = ofCast error := by
  cases error <;> rfl

namespace Issue.Renamed

theorem ofKind (kind : IssueKind) :
    Issue.Renamed name name' (.ofKind ⟨name, slug, options⟩ kind)
      (.ofKind ⟨name', slug, options⟩ kind) where
  root := rfl
  root' := rfl
  segments := rfl
  kind := rfl
  options := rfl
  inherited _ := ⟨rfl, rfl⟩
  nested _ hk := absurd hk List.not_mem_nil

theorem underIndex {a b : Issue} (h : Issue.Renamed name name' a b) (i : Nat) :
    Issue.Renamed name name' (a.underIndex name i) (b.underIndex name' i) where
  root := rfl
  root' := rfl
  segments := congrArg (Segment.index i :: ·) h.segments
  kind := h.kind
  options := h.options
  inherited hnone := h.inherited fun key hk => hnone key (List.mem_cons_of_mem _ hk)
  nested key hk := by
    rcases List.mem_cons.mp hk with he | hm
    · exact absurd he (by simp)
    · exact h.nested key hm

/-- Below a key nothing is renamed. -/
theorem underKey (issue : Issue) :
    Issue.Renamed name name' (issue.underKey name) (issue.underKey name') where
  root := rfl
  root' := rfl
  segments := rfl
  kind := rfl
  options := rfl
  inherited hnone := absurd List.mem_cons_self (hnone issue.path.root)
  nested _ _ := rfl

end Issue.Renamed

/-! ### Verdicts -/

namespace Head

variable (name name') in
theorem fallback_renamed (value : Value) :
    (⟨name', slug, options⟩ : Head).fallback value =
      ((⟨name, slug, options⟩ : Head).fallback value).mapError (CastError.renamed name') := by
  unfold fallback
  split
  · split
    · rfl
    · rfl
  · rfl

variable (name name') in
theorem castScalar_renamed (rule : Scalar) (ctx : Context) (value : Value) :
    (⟨name', slug, options⟩ : Head).castScalar rule ctx value =
      ((⟨name, slug, options⟩ : Head).castScalar rule ctx value).mapError
        (CastError.renamed name') := by
  rw [castScalar, castScalar]
  cases rule.read ctx value with
  | some result => rfl
  | none => exact fallback_renamed name name' value

end Head

namespace Verdict

/-- Two verdicts differ in the root of the addresses alone. -/
structure Renames (name name' : String) (a b : Verdict) : Prop where
  named : a.head.name = name
  named' : b.head.name = name'
  error : b.error? = a.error?.map (CastError.renamed name')
  value : b.value = a.value
  report : ∀ full, List.Forall₂ (Issue.Renamed name name') (a.flatten full) (b.flatten full)

theorem Renames.leaf (result : Except CastError Value) :
    Renames name name' (leaf ⟨name, slug, options⟩ result)
      (leaf ⟨name', slug, options⟩ (result.mapError (CastError.renamed name'))) := by
  cases result with
  | ok value => exact ⟨rfl, rfl, rfl, rfl, fun _ => .nil⟩
  | error error =>
    refine ⟨rfl, rfl, rfl, rfl, fun full => .cons ?_ .nil⟩
    rw [IssueKind.ofCast_renamed]
    exact .ofKind _

theorem flattenElements_renames (full : Bool) {elements elements' : List Verdict}
    (h : List.Forall₂ (Renames name name') elements elements') : ∀ i,
    List.Forall₂ (Issue.Renamed name name') (flattenElements full name i elements)
      (flattenElements full name' i elements') := by
  induction h with
  | nil => intro i; exact .nil
  | cons hfirst _ ih =>
    intro i
    rw [flattenElements, flattenElements]
    refine List.rel_append ?_ (ih (i + 1))
    rw [List.forall₂_map_left_iff, List.forall₂_map_right_iff]
    exact (hfirst.report full).imp fun _ _ hab => hab.underIndex i

theorem Renames.array {elements elements' : List Verdict}
    (h : List.Forall₂ (Renames name name') elements elements') (indexed : Bool) :
    Renames name name' (array ⟨name, slug, options⟩ elements indexed)
      (array ⟨name', slug, options⟩ elements' indexed) := by
  refine ⟨rfl, rfl, rfl, ?_, fun full => ?_⟩
  · rw [Verdict.value, Verdict.value, values_congr (h.imp fun _ _ hab => hab.value.symm)]
  · have hbelow := flattenElements_renames full h 0
    rw [flatten, flatten]
    dsimp only
    generalize flattenElements full name 0 elements = issues at hbelow ⊢
    generalize flattenElements full name' 0 elements' = issues' at hbelow ⊢
    cases hbelow with
    | nil => exact .nil
    | cons hfirst hrest =>
      dsimp only
      by_cases hall : (full || indexed) = true
      · rw [if_pos hall, if_pos hall]
        exact .cons hfirst hrest
      · -- the first issue is told as one of the array, which is of the same kind in both
        rw [if_neg hall, if_neg hall, hfirst.kind]
        exact .cons (.ofKind _) .nil

theorem flattenFields_renames (full : Bool) (fields : List (String × Verdict)) :
    List.Forall₂ (Issue.Renamed name name') (flattenFields full name fields)
      (flattenFields full name' fields) := by
  induction fields with
  | nil => exact .nil
  | cons field rest ih =>
    rw [flattenFields, flattenFields]
    refine List.rel_append ?_ ih
    rw [List.forall₂_map_left_iff, List.forall₂_map_right_iff]
    exact List.forall₂_same.mpr fun issue _ => .underKey issue

theorem Renames.hash (output : Entries Value) (fields : List (String × Verdict)) :
    Renames name name' (hash ⟨name, slug, options⟩ output fields)
      (hash ⟨name', slug, options⟩ output fields) := by
  refine ⟨rfl, rfl, rfl, rfl, fun full => ?_⟩
  rw [flatten, flatten]
  exact flattenFields_renames full fields

/-- Results differ in the names that cast errors tell. -/
theorem Renames.result {a b : Verdict} (h : Renames name name' a b) :
    b.result = a.result.mapError (CastError.renamed name') := by
  have herror := h.error
  have hreport := h.report true
  cases he : a.error? with
  | some error =>
    rw [he] at herror
    rw [result_of_error he, result_of_error herror]
    rfl
  | none =>
    rw [he] at herror
    rw [Verdict.result, Verdict.result, he, herror, h.named', h.value]
    generalize a.flatten true = issues at hreport ⊢
    generalize b.flatten true = issues' at hreport ⊢
    -- a nested error tells where the first issue is
    cases hreport with
    | nil => rfl
    | @cons first first' rest rest' hfirst _ =>
      have hpath : first'.path = ⟨name', first.path.segments⟩ := by
        rw [← hfirst.root', ← hfirst.segments]
      rw [Option.map_none]
      dsimp only
      rw [hpath]
      rfl

end Verdict

namespace Filter

variable {a b : Filter} {ctx : Context} {drawn : Nat}

theorem refused_renames (value : Value) :
    Verdict.Renames name name'
      (.leaf ⟨name, slug, options⟩ (Head.fallback ⟨name, slug, options⟩ value))
      (.leaf ⟨name', slug, options⟩ (Head.fallback ⟨name', slug, options⟩ value)) := by
  rw [Head.fallback_renamed name name']
  exact .leaf _

/-- **Verdicts of a filter and the renamed one differ in the root of the addresses alone.** -/
theorem judge_renames (h : Renamed name name' a b) : ∀ value : Value,
    (a.judge ctx drawn value).Renames name name' (b.judge ctx drawn value) := by
  induction h with
  | scalar slug options rule =>
    intro value
    rw [judge, judge, Head.castScalar_renamed name name']
    exact .leaf _
  | array slug options =>
    intro value
    cases value with
    | array items => exact .leaf (.ok _)
    | _ => exact refused_renames _
  | arrayOf slug options _ ih =>
    intro value
    cases value with
    | array items =>
      rw [judge, judge]
      refine .array ?_ _
      rw [List.forall₂_map_left_iff, List.forall₂_map_right_iff]
      exact List.forall₂_same.mpr fun item _ => ih item
    | _ => exact refused_renames _
  | hash slug options fields =>
    intro value
    cases value with
    | hash entries =>
      -- what is merged and what comes out is up to the options, which are the same
      cases fields with
      | nil => exact .leaf (.ok _)
      | cons field rest => exact .hash _ _
    | _ => cases fields <;> exact refused_renames _

theorem cast_renamed (h : Renamed name name' a b) (value : Value) :
    b.cast ctx drawn value = (a.cast ctx drawn value).mapError (CastError.renamed name') :=
  (judge_renames h value).result

theorem options_renamed (h : Renamed name name' a b) : b.options = a.options := by
  cases h <;> rfl

theorem castDraws_renamed (h : Renamed name name' a b) (value : Value) :
    b.castDraws value = a.castDraws value := by
  cases h with
  | hash slug options fields => cases fields <;> cases value <;> rfl
  | _ => rfl

theorem mapError_eq_ok_iff {ε ε' α : Type} {x : Except ε α} {f : ε → ε'} {value : α} :
    x.mapError f = .ok value ↔ x = .ok value := by
  cases x <;> simp [Except.mapError]

theorem default_renamed (h : Renamed name name' a b) (result : Value) :
    b.default ctx drawn = .ok result ↔ a.default ctx drawn = .ok result := by
  rw [Filter.default, Filter.default, options_renamed h]
  cases a.options.default with
  | none => simp
  | some default =>
    dsimp only
    rw [cast_renamed h]
    cases a.cast ctx (drawn + 1) (default.resolve drawn) with
    | ok value => rfl
    | error error => simp [Except.mapError]

theorem clean_renamed (h : Renamed name name' a b) (value result : Value) :
    b.clean ctx drawn value = .ok result ↔ a.clean ctx drawn value = .ok result := by
  rw [clean, clean, cast_renamed h, castDraws_renamed h]
  cases a.cast ctx drawn value with
  | error error => simp [Except.mapError]
  | ok cleaned =>
    have hneeds : b.needsDefault cleaned = a.needsDefault cleaned := by
      rw [needsDefault, needsDefault, isOptional, isOptional, options_renamed h]
    have hdefault : b.default ctx (drawn + a.castDraws value) = .ok result ↔
        a.default ctx (drawn + a.castDraws value) = .ok result := default_renamed h result
    rw [Except.mapError]
    dsimp only
    rw [hneeds]
    cases hn : a.needsDefault cleaned with
    | false => rfl
    | true =>
      rw [if_pos rfl, if_pos rfl]
      revert hdefault
      cases b.default ctx (drawn + a.castDraws value) <;>
        cases a.default ctx (drawn + a.castDraws value) <;> simp

end Filter

namespace Declaration

variable {registry : Registry} {declaration : Declaration} {a b : Filter}

/-- **Renaming a filter changes the root of its addresses and nothing else**, if no kind makes
anything else of the name: not what is cast, not what is cleaned, and of the report neither the
length nor the order. -/
theorem renaming_keeps_all_but_root (built : declaration.buildAs registry name = .ok a)
    (built' : declaration.buildAs registry name' = .ok b)
    (classes : ∀ heir, declaration.Inherits registry heir → heir.NamesClass registry)
    (hosts : ∀ heir, declaration.Inherits registry heir → ∀ constructor,
      registry.kind heir.slug = .ok constructor → constructor.IsHost →
        constructor.Keeps (heir.definition registry name) name')
    (ctx : Context) (drawn : Nat) (value : Value) :
    (∀ result, a.cast ctx drawn value = .ok result ↔ b.cast ctx drawn value = .ok result) ∧
    (∀ result, a.clean ctx drawn value = .ok result ↔ b.clean ctx drawn value = .ok result) ∧
    b.cast ctx drawn value = (a.cast ctx drawn value).mapError (CastError.renamed name') ∧
    (b.judge ctx drawn value).value = (a.judge ctx drawn value).value ∧
    ∀ full, List.Forall₂ (Issue.Renamed name name') ((a.judge ctx drawn value).flatten full)
      ((b.judge ctx drawn value).flatten full) := by
  have h : a.Renamed name name' b := renamed_of_buildAs built built' classes hosts
  have hcast : b.cast ctx drawn value =
      (a.cast ctx drawn value).mapError (CastError.renamed name') := Filter.cast_renamed h value
  have hjudge : (a.judge ctx drawn value).Renames name name' (b.judge ctx drawn value) :=
    Filter.judge_renames h value
  refine ⟨fun result => ?_, fun result => (Filter.clean_renamed h value result).symm, hcast,
    hjudge.value, hjudge.report⟩
  rw [hcast, Filter.mapError_eq_ok_iff]

/-- A kind of the host: texts are said louder. -/
def shout : Constructor :=
  .scalar fun _ => .ok (.host fun _ value =>
    match value with
    | .string text => some (.string (text ++ "!"))
    | _ => none)

theorem isHost_shout : shout.IsHost :=
  Constructor.isHost_of_makesHost rfl

def hallRegistry : Registry :=
  (Registry.builtin.register "shout" shout).registerClass ⟨"User", []⟩

/-- Tables with something at every place. -/
def tables (place : Declaration) : Declaration :=
  ⟨"array", none, { indexErrors := some true },
    [⟨"array", none, { indexErrors := some true }, [place]⟩]⟩

/-- Guests are users whatever the list is called. -/
def guest : Declaration :=
  ⟨"object", none, { className := some "User" }, []⟩

def call : Declaration :=
  ⟨"shout", none, {}, []⟩

def tablesFilter (name : String) (place : Filter) : Filter :=
  .arrayOf ⟨name, "array", { indexErrors := some true }⟩
    (.arrayOf ⟨name, "array", { indexErrors := some true }⟩ place)

def guestsFilter (name : String) : Filter :=
  tablesFilter name (.scalar ⟨name, "object", { className := some "User" }⟩ (.object "User" none))

def callsFilter (name : String) : Filter :=
  tablesFilter name (.scalar ⟨name, "shout", {}⟩ (.host fun _ value =>
    match value with
    | .string text => some (.string (text ++ "!"))
    | _ => none))

/-- The issues with two guests at the second table: a text and no one. -/
def guestIssues (name : String) : Report :=
  [⟨⟨name, [.index 1, .index 0]⟩, .invalidType, [("type", "object")], some name⟩,
    ⟨⟨name, [.index 1, .index 1]⟩, .missing, [], some name⟩]

/-- The issue with two calls at the second table, a text and nothing. -/
def callIssues (name : String) : Report :=
  [⟨⟨name, [.index 1, .index 1]⟩, .missing, [], some name⟩]

/-- What holds of arrays, and of what is at the places, holds wherever the name is handed on. -/
theorem forall_inherits_tables {P : Declaration → Prop} {place : Declaration}
    (array : ∀ options children, P ⟨"array", none, options, children⟩) (own : P place)
    (leaf : place.children = []) : ∀ heir, (tables place).Inherits hallRegistry heir → P heir := by
  obtain ⟨slug, name, options, children⟩ := place
  obtain rfl : children = [] := leaf
  rintro _ (_ | ⟨_, _ | ⟨_, _ | _⟩⟩)
  · exact array _ _
  · exact array _ _
  · exact own

/-- An object filter asks for a class where an interface goes by methods. -/
theorem makeObject_ne_makeInterface : Scalar.makeObject ≠ Scalar.makeInterface := by
  intro h
  have hobject : Scalar.makeObject ⟨"user", "object", { methods := ["name"] }, [], []⟩ =
      .error (.unknownClass "User") := by rfl
  have hinterface : Scalar.makeInterface ⟨"user", "object", { methods := ["name"] }, [], []⟩ =
      .ok (.interface (.methods ["name"])) := by rfl
  rw [h, hinterface] at hobject
  exact absurd hobject (by simp)

theorem kinds_hallRegistry :
    hallRegistry.kinds = Registry.builtin.kinds.insert "shout" shout := by
  simp only [hallRegistry, Registry.registerClass, Registry.register]

theorem kind_tables : hallRegistry.kind "array" = .ok .array := by
  rw [Registry.kind, kinds_hallRegistry, Registry.kinds_builtin]
  rfl

theorem kind_guest : hallRegistry.kind guest.slug = .ok (.scalar Scalar.makeObject) := by
  rw [Registry.kind, kinds_hallRegistry, Registry.kinds_builtin]
  rfl

theorem kind_call : hallRegistry.kind call.slug = .ok shout := by
  rw [Registry.kind, kinds_hallRegistry, Registry.kinds_builtin]
  rfl

theorem buildAs_tables {place : Declaration} {filter : Filter} (unnamed : place.name = none)
    (required : place.options.default = none) (built : place.Built hallRegistry name filter) :
    (tables place).buildAs hallRegistry name = .ok (tablesFilter name filter) := by
  refine buildAs_of_built (.arrayOf kind_tables rfl rfl ?_)
  exact buildAs_of_built (.arrayOf kind_tables unnamed required (buildAs_of_built built))

theorem buildAs_guest (name : String) :
    (tables guest).buildAs hallRegistry name = .ok (guestsFilter name) := by
  have found : hallRegistry.classes.find "User" = .ok ⟨"User", []⟩ := by rfl
  refine buildAs_tables rfl rfl (.scalar kind_guest ?_)
  simp only [Scalar.makeObject, Definition.resolveClass, Option.getD_some, found]
  rfl

theorem buildAs_call (name : String) :
    (tables call).buildAs hallRegistry name = .ok (callsFilter name) :=
  buildAs_tables rfl rfl (.scalar kind_call rfl)

theorem namesClass_of_inherits_tables : ∀ place ∈ [guest, call], ∀ heir,
    (tables place).Inherits hallRegistry heir → heir.NamesClass hallRegistry := by
  have array : ∀ options children, NamesClass hallRegistry ⟨"array", none, options, children⟩ :=
    fun _ _ => .of_array kind_tables
  intro place hplace
  rcases List.mem_pair.mp hplace with rfl | rfl
  · refine forall_inherits_tables array ⟨fun _ => rfl, fun _ => rfl, fun kind => ?_⟩ rfl
    exact absurd (kind_guest.symm.trans kind) (by simpa using makeObject_ne_makeInterface)
  · exact forall_inherits_tables array (.of_isHost kind_call isHost_shout) rfl

theorem keeps_of_inherits_tables : ∀ place ∈ [guest, call], ∀ heir,
    (tables place).Inherits hallRegistry heir → ∀ constructor,
      hallRegistry.kind heir.slug = .ok constructor → constructor.IsHost →
        constructor.Keeps (heir.definition hallRegistry "guests") "members" := by
  intro place hplace
  rcases List.mem_pair.mp hplace with rfl | rfl
  · refine forall_inherits_tables (fun _ _ => keeps_of_kind kind_tables fun _ => trivial) ?_ rfl
    refine keeps_of_kind kind_guest fun host => ?_
    exact absurd (by simp [Registry.builtinKinds]) (host "ObjectFilter")
  · refine forall_inherits_tables (fun _ _ => keeps_of_kind kind_tables fun _ => trivial) ?_ rfl
    refine keeps_of_kind kind_call fun _ rule rule' made made' => ?_
    exact Except.ok.inj (made.symm.trans made')

/-- Guests and calls, under two names. -/
theorem renaming_keeps_all_but_root_tables :
    (∀ place ∈ [guest, call], ∀ heir, (tables place).Inherits hallRegistry heir →
      heir.NamesClass hallRegistry ∧ ∀ constructor,
        hallRegistry.kind heir.slug = .ok constructor → constructor.IsHost →
          constructor.Keeps (heir.definition hallRegistry "guests") "members") ∧
    (hallRegistry.kind call.slug = .ok shout ∧ shout.IsHost) ∧
    (∀ name ∈ ["guests", "members"],
      (tables guest).buildAs hallRegistry name = .ok (guestsFilter name) ∧
        (tables call).buildAs hallRegistry name = .ok (callsFilter name)) ∧
    List.Forall₂ (Issue.Renamed "guests" "members") (guestIssues "guests")
      (guestIssues "members") ∧
    List.Forall₂ (Issue.Renamed "guests" "members") (callIssues "guests")
      (callIssues "members") := by
  have classes := namesClass_of_inherits_tables
  have hosts := keeps_of_inherits_tables
  have guests := renaming_keeps_all_but_root (buildAs_guest "guests") (buildAs_guest "members")
    (classes guest (by simp)) (hosts guest (by simp)) {} 0
    (.array [.array [], .array [.string "Ann", .nil]])
  have calls := renaming_keeps_all_but_root (buildAs_call "guests") (buildAs_call "members")
    (classes call (by simp)) (hosts call (by simp)) {} 0
    (.array [.array [], .array [.string "Ann", .nil]])
  exact ⟨fun place hplace heir h => ⟨classes place hplace heir h, hosts place hplace heir h⟩,
    ⟨kind_call, isHost_shout⟩, fun name _ => ⟨buildAs_guest name, buildAs_call name⟩,
    guests.2.2.2.2 false, calls.2.2.2.2 false⟩

/-- A kind of the host that puts the name of the filter before texts. -/
def nameTag : Constructor :=
  .scalar fun definition => .ok (.host fun _ value =>
    match value with
    | .string text => some (.string (definition.name ++ "-" ++ text))
    | _ => none)

def tagRegistry : Registry :=
  Registry.builtin.register "tag" nameTag

def tag : Declaration :=
  ⟨"tag", none, {}, []⟩

theorem kind_tag : tagRegistry.kind tag.slug = .ok nameTag := by
  rw [Registry.kind, tagRegistry, Registry.register, Registry.kinds_builtin]
  rfl

/-- A kind of the host that makes something else of another name casts other values. -/
theorem nameTag_casts_by_name :
    (∀ heir, tag.Inherits tagRegistry heir → heir.NamesClass tagRegistry) ∧
    ∃ a b, tag.buildAs tagRegistry "guests" = .ok a ∧ tag.buildAs tagRegistry "members" = .ok b ∧
      a.cast {} 0 (.string "Ann") = .ok (.string "guests-Ann") ∧
      b.cast {} 0 (.string "Ann") = .ok (.string "members-Ann") := by
  have host : nameTag.IsHost := Constructor.isHost_of_makesHost rfl
  refine ⟨?_, _, _, buildAs_of_built (.scalar kind_tag rfl),
    buildAs_of_built (.scalar kind_tag rfl), ?_, ?_⟩
  · rintro _ (_ | _)
    exact .of_isHost kind_tag host
  · rfl
  · rfl

end Declaration

end Intake
