import Intake.Proofs.Cast.Agreement
import Intake.Proofs.Filter.Fixed
import Intake.Registry.Builtin

/-!
# Lazy defaults

A default is resolved and then cast by its own filter.  In a hash filter with fields the cast has the
default resolved once more, to put it under the hash that is cast.  A fixed default is put under
itself, where nothing of it is seen.  Of a lazy one the next value is put under the value before it,
so that what comes out may be of two values: `default_mixes_span`.  It is of one value if and only
if the cast does not see the next value under it: `default_eq_fixed_iff`.
-/

namespace Intake

/-- The entries of a hash over those of another one. -/
def Value.over : Value → Value → Value
  | .hash entries, .hash defaults => .hash (Entries.insertAll defaults entries)
  | value, _ => value

namespace Head

def withDefault (head : Head) (default : Option Default) : Head :=
  { head with options := { head.options with default } }

variable {head : Head}

theorem fallback_withDefault {default : Option Default}
    (h : head.options.default.isSome = default.isSome) (value : Value) :
    (head.withDefault default).fallback value = head.fallback value := by
  have haccepts : (head.withDefault default).options.acceptsNil = head.options.acceptsNil := by
    rw [Options.acceptsNil, Options.acceptsNil, Options.isOptional, Options.isOptional, h]
    rfl
  rw [fallback, fallback, haccepts]
  rfl

theorem alike_withDefault {default : Option Default}
    (h : head.options.default.isSome = default.isSome) : head.Alike (head.withDefault default) :=
  ⟨rfl, rfl, rfl, fun value => (fallback_withDefault h value).symm⟩

/-- A fixed default under itself is what it is. -/
theorem merged_self {entries : Entries Value} (h : entries.Ascending) (n : Nat) :
    (head.withDefault (some (.fixed (.hash entries)))).merged n entries = entries :=
  h.insertAll_eq h fun _ hk => hk

theorem hash_merged_of_lazy {supply : Nat → Value}
    (lazy : head.options.default = some (.lazy supply)) (n : Nat) (entries : Entries Value) :
    .hash (head.merged n entries) = Value.over (.hash entries) (supply n) := by
  rw [merged, lazy]
  cases hs : supply n with
  | hash defaults => simp only [Default.resolve, hs, Value.over]
  | _ => simp only [Default.resolve, hs, Value.over]

end Head

namespace Filter

def withDefault (filter : Filter) (default : Option Default) : Filter :=
  match filter with
  | scalar head rule => scalar (head.withDefault default) rule
  | array head => array (head.withDefault default)
  | arrayOf head element => arrayOf (head.withDefault default) element
  | hash head fields => hash (head.withDefault default) fields

/-- What comes of a default, given what its cast came to. -/
def resolved (name : String) (value : Value) : Except CastError Value → Except DefinitionError Value
  | .ok result => .ok result
  | .error error => .error (.invalidDefault name value (some error))

/-- A value that is put under another one, as its default, makes no difference to a cast. -/
def Unseen (filter : Filter) (ctx : Context) (drawn : Nat) (under value : Value) : Prop :=
  (filter.withDefault none).cast ctx drawn (value.over under) =
    (filter.withDefault none).cast ctx drawn value

variable {ctx : Context} {filter : Filter} {supply : Nat → Value}

theorem name_withDefault (filter : Filter) (default : Option Default) :
    (filter.withDefault default).name = filter.name := by
  cases filter <;> rfl

theorem default_withDefault (filter : Filter) (default : Option Default) :
    (filter.withDefault default).options.default = default := by
  cases filter <;> rfl

theorem default_eq_resolved {default : Default} (h : filter.options.default = some default)
    (n : Nat) : filter.default ctx n =
      resolved filter.name (default.resolve n) (filter.cast ctx (n + 1) (default.resolve n)) := by
  unfold Filter.default
  simp only [h]
  cases filter.cast ctx (n + 1) (default.resolve n) with
  | ok result => rfl
  | error error => rfl

theorem resolved_inj {name : String} {value : Value} {a b : Except CastError Value} :
    resolved name value a = resolved name value b ↔ a = b := by
  cases a with
  | ok result => cases b <;> simp [resolved]
  | error error => cases b <;> simp [resolved]

/-! ### Casts of filters that differ in the default -/

/-- A filter with fixed defaults is judged alike at any time. -/
theorem JudgesAlike.of_fixed (fixed : filter.FixedDefaults) (n m : Nat) :
    filter.JudgesAlike ctx ctx n m filter := by
  refine ⟨rfl, fun value => ?_⟩
  rw [judge_of_fixed filter fixed n m]
  exact .refl _

theorem forall₂_judgesAlike {fields : List Filter} (fixed : ∀ field ∈ fields, field.FixedDefaults)
    (n m : Nat) : List.Forall₂ (JudgesAlike ctx ctx n m) fields fields :=
  List.forall₂_same.mpr fun field hf => .of_fixed (fixed field hf) n m

/-- A cast that does not resolve the default takes no notice of its value. -/
theorem cast_withDefault {own other : Default} (h : filter.options.default = some own)
    (fixed : ∀ child ∈ filter.children, child.FixedDefaults) {value : Value}
    (undrawn : filter.castDraws value = 0) (n m : Nat) :
    filter.cast ctx n value = (filter.withDefault (some other)).cast ctx m value := by
  have halike : filter.head.Alike (filter.head.withDefault (some other)) := by
    refine Head.alike_withDefault ?_
    rw [show filter.head.options.default = some own from h]
    rfl
  refine Verdict.Agrees.result ?_
  cases filter with
  | scalar head rule => exact judge_scalar_agrees halike rfl
  | array head => exact judge_array_agrees halike value
  | arrayOf head element =>
    have he : element.FixedDefaults := fixed element (List.mem_singleton_self element)
    exact judge_arrayOf_agrees halike (.of_fixed he n m) value
  | hash head fields =>
    refine judge_hash_agrees halike (forall₂_judgesAlike fixed n m) value ?_
    -- a hash with fields would have the default resolved
    rintro entries nonempty rfl
    obtain ⟨field, rest, rfl⟩ := List.exists_cons_of_ne_nil nonempty
    have hoptional : head.options.isOptional = true := by
      rw [Options.isOptional, show head.options.default = some own from h]
      rfl
    rw [castDraws, hoptional, if_pos rfl] at undrawn
    exact absurd undrawn (by omega)

/-- A cast of a hash sees nothing of the default but what is merged. -/
theorem cast_fields_withDefault {head : Head} {fields : List Filter} {default : Option Default}
    (nonempty : fields ≠ []) (fixed : ∀ field ∈ fields, field.FixedDefaults) {n m : Nat}
    {entries entries' : Entries Value}
    (merged : head.merged n entries = (head.withDefault default).merged m entries') :
    (hash head fields).cast ctx n (.hash entries) =
      (hash (head.withDefault default) fields).cast ctx m (.hash entries') := by
  have hname : head.name = (head.withDefault default).name := rfl
  have hstrip : head.options.strip = (head.withDefault default).options.strip := rfl
  exact (judge_fields_agrees hname hstrip nonempty (forall₂_judgesAlike fixed n m) merged).result

theorem exists_of_castDraws_ne_zero {value : Value} (h : filter.castDraws value ≠ 0) :
    ∃ head field rest entries, filter = hash head (field :: rest) ∧ value = .hash entries := by
  unfold castDraws at h
  split at h
  · exact ⟨_, _, _, _, rfl, rfl⟩
  · exact absurd rfl h

/-! ### Lazy defaults -/

section Lazy

variable (lazy : filter.options.default = some (.lazy supply))
  (fixed : ∀ child ∈ filter.children, child.FixedDefaults)

include lazy fixed

/-- Where the cast resolves nothing more, the default is of one value. -/
theorem default_of_undrawn {n : Nat} (undrawn : filter.castDraws (supply n) = 0) (m : Nat) :
    filter.default ctx n =
      (filter.withDefault (some (.fixed (supply n)))).default ctx m := by
  rw [default_eq_resolved lazy, default_eq_resolved (default_withDefault _ _), name_withDefault]
  exact congrArg _ (cast_withDefault lazy fixed undrawn _ _)

/-- Where it does, the next value goes under the value before it. -/
theorem default_of_drawn {n : Nat} (drawn : filter.castDraws (supply n) ≠ 0) (m : Nat) :
    filter.default ctx n = resolved filter.name (supply n)
      ((filter.withDefault none).cast ctx m ((supply n).over (supply (n + 1)))) := by
  obtain ⟨head, field, rest, entries, rfl, hfirst⟩ := exists_of_castDraws_ne_zero drawn
  have hmerged : .hash (head.merged (n + 1) entries) =
      Value.over (.hash entries) (supply (n + 1)) := Head.hash_merged_of_lazy lazy _ _
  have hcast : (hash head (field :: rest)).cast ctx (n + 1) (.hash entries) =
      (hash (head.withDefault none) (field :: rest)).cast ctx m
        (.hash (head.merged (n + 1) entries)) :=
    cast_fields_withDefault (List.cons_ne_nil _ _) fixed rfl
  rw [default_eq_resolved lazy, Default.resolve, hfirst, hcast, hmerged]
  rfl

/-- A fixed default goes under itself. -/
theorem default_of_fixed_hash {n : Nat} (drawn : filter.castDraws (supply n) ≠ 0)
    (ascending : ∀ entries, supply n = .hash entries → Entries.Ascending entries) (m : Nat) :
    (filter.withDefault (some (.fixed (supply n)))).default ctx m =
      resolved filter.name (supply n) ((filter.withDefault none).cast ctx m (supply n)) := by
  obtain ⟨head, field, rest, entries, rfl, hfirst⟩ := exists_of_castDraws_ne_zero drawn
  have hself : (head.withDefault (some (.fixed (.hash entries)))).merged (m + 1) entries =
      entries := Head.merged_self (ascending entries hfirst) _
  have hcast : (hash (head.withDefault (some (.fixed (.hash entries)))) (field :: rest)).cast ctx
        (m + 1) (.hash entries) =
      (hash ((head.withDefault (some (.fixed (.hash entries)))).withDefault none)
        (field :: rest)).cast ctx m (.hash entries) :=
    cast_fields_withDefault (List.cons_ne_nil _ _) fixed hself
  rw [default_eq_resolved (default_withDefault _ _), Default.resolve, hfirst]
  exact congrArg _ hcast

end Lazy

theorem castDraws_nil (filter : Filter) : filter.castDraws .nil = 0 := by
  cases filter with
  | hash head fields => cases fields <;> rfl
  | _ => rfl

/-- Nil is cleaned to what it is cast to, or to the default. -/
theorem clean_nil_eq {own : Default} (h : filter.options.default = some own) (n : Nat) :
    filter.clean ctx n .nil =
      match filter.cast ctx n .nil with
      | .error error => .error (.cast error)
      | .ok value =>
        if value.isNil then (filter.default ctx n).mapError .definition else .ok value := by
  have hoptional : filter.isOptional = true := by
    rw [isOptional, Options.isOptional, h]
    rfl
  rw [clean, castDraws_nil, Nat.add_zero]
  cases filter.cast ctx n .nil with
  | error error => rfl
  | ok value =>
    simp only [needsDefault, hoptional, Bool.and_true]
    cases filter.default ctx n with
    | ok result => rfl
    | error error => rfl

/-- A hash filter with a default cleans nil to the default. -/
theorem clean_nil_of_hash {head : Head} {fields : List Filter} {own : Default}
    (h : (hash head fields).options.default = some own) (n : Nat) :
    (hash head fields).clean ctx n .nil =
      ((hash head fields).default ctx n).mapError .definition := by
  have haccepts : head.options.acceptsNil = true := by
    rw [Options.acceptsNil, Options.isOptional, show head.options.default = some own from h]
    rfl
  have hjudge : (hash head fields).judge ctx n .nil = .leaf head (head.fallback .nil) := by
    cases fields <;> rfl
  have hfallback : head.fallback .nil = .ok .nil := by
    rw [Head.fallback, haccepts]
    rfl
  have hcast : (hash head fields).cast ctx n .nil = .ok .nil := by
    rw [cast, hjudge, hfallback]
    rfl
  rw [clean_nil_eq h, hcast]
  rfl

theorem mapError_inj {a b : Except DefinitionError Value} :
    a.mapError CleanError.definition = b.mapError CleanError.definition ↔ a = b := by
  cases a with
  | ok result => cases b <;> simp [Except.mapError]
  | error error => cases b <;> simp [Except.mapError]

/-- **A lazy default is of one value if and only if the cast does not see the next value under it.**
Where the cast resolves the default again, it casts the value over the next one. -/
theorem default_eq_fixed_iff {registry : Registry} {declaration : Declaration} {name : String}
    (built : declaration.buildAs registry name = .ok filter)
    (lazy : filter.options.default = some (.lazy supply))
    (ascending : ∀ n entries, supply n = .hash entries → Entries.Ascending entries)
    (ctx : Context) (n m : Nat) :
    (filter.default ctx n = (filter.withDefault (some (.fixed (supply n)))).default ctx m ↔
      (filter.castDraws (supply n) ≠ 0 → filter.Unseen ctx m (supply (n + 1)) (supply n))) ∧
    (filter.clean ctx n .nil = (filter.withDefault (some (.fixed (supply n)))).clean ctx m .nil ↔
      (filter.castDraws (supply n) ≠ 0 → filter.Unseen ctx m (supply (n + 1)) (supply n))) ∧
    (filter.castDraws (supply n) ≠ 0 → filter.default ctx n = resolved filter.name (supply n)
      ((filter.withDefault none).cast ctx m ((supply n).over (supply (n + 1))))) := by
  have fixed : ∀ child ∈ filter.children, child.FixedDefaults := by
    intro child hc node hn default hd
    rw [Declaration.default_of_nested built child hc node hn] at hd
    exact absurd hd (by simp)
  by_cases hdrawn : filter.castDraws (supply n) = 0
  · have hdefault : filter.default ctx n =
        (filter.withDefault (some (.fixed (supply n)))).default ctx m :=
      default_of_undrawn lazy fixed hdrawn m
    have hcast : filter.cast ctx n .nil =
        (filter.withDefault (some (.fixed (supply n)))).cast ctx m .nil :=
      cast_withDefault lazy fixed filter.castDraws_nil n m
    have hclean : filter.clean ctx n .nil =
        (filter.withDefault (some (.fixed (supply n)))).clean ctx m .nil := by
      rw [clean_nil_eq lazy, clean_nil_eq (default_withDefault _ _), hcast, hdefault]
    exact ⟨iff_of_true hdefault fun h => absurd hdrawn h,
      iff_of_true hclean fun h => absurd hdrawn h, fun h => absurd hdrawn h⟩
  · have hlazy : filter.default ctx n = resolved filter.name (supply n)
        ((filter.withDefault none).cast ctx m ((supply n).over (supply (n + 1)))) :=
      default_of_drawn lazy fixed hdrawn m
    have hfixed : (filter.withDefault (some (.fixed (supply n)))).default ctx m =
        resolved filter.name (supply n) ((filter.withDefault none).cast ctx m (supply n)) :=
      default_of_fixed_hash lazy fixed hdrawn (ascending n) m
    have hiff : filter.default ctx n =
          (filter.withDefault (some (.fixed (supply n)))).default ctx m ↔
        (filter.castDraws (supply n) ≠ 0 → filter.Unseen ctx m (supply (n + 1)) (supply n)) := by
      rw [hlazy, hfixed, resolved_inj, forall_prop_of_true hdrawn]
      rfl
    refine ⟨hiff, ?_, fun _ => hlazy⟩
    rw [← hiff]
    obtain ⟨head, field, rest, _, rfl, _⟩ := exists_of_castDraws_ne_zero hdrawn
    have honce : (hash (head.withDefault (some (.fixed (supply n)))) (field :: rest)).clean ctx m
          .nil = ((hash (head.withDefault (some (.fixed (supply n)))) (field :: rest)).default ctx
            m).mapError .definition := clean_nil_of_hash rfl m
    rw [withDefault, clean_nil_of_hash lazy n, honce, mapError_inj]

/-- The next value is not seen if it has no keys of its own. -/
theorem unseen_of_keys {value next : Entries Value} (hvalue : value.Ascending)
    (hnext : next.Ascending) (h : ∀ key ∈ next.keys, key ∈ value.keys) (m : Nat) :
    filter.Unseen ctx m (.hash next) (.hash value) := by
  rw [Unseen, Value.over, hnext.insertAll_eq hvalue h]

def spanFields : List Filter :=
  [.scalar ⟨"start", "integer", {}⟩ .integer, .scalar ⟨"stop", "integer", {}⟩ .integer]

def spanDeclaration (default : Default) : Declaration :=
  ⟨"hash", some "span", { default := some default },
    [⟨"integer", some "start", {}, []⟩, ⟨"integer", some "stop", {}, []⟩]⟩

def spanFilter (default : Default) : Filter :=
  .hash ⟨"span", "hash", { default := some default }⟩ spanFields

theorem build_spanDeclaration (default : Default) :
    (spanDeclaration default).buildAs Registry.builtin "span" = .ok (spanFilter default) := by
  rfl

/-- A span that starts later each time. -/
def laterSpan (n : Nat) : Value :=
  .hash [("start", .integer (.ofNat n)), ("stop", .integer (.ofNat (n + 1)))]

theorem default_eq_fixed_iff_laterSpan :
    (∀ n entries, laterSpan n = .hash entries → Entries.Ascending entries) ∧
    (spanFilter (.lazy laterSpan)).clean {} 3 .nil =
      (spanFilter (.fixed (laterSpan 3))).clean {} 0 .nil := by
  have ascending : ∀ n entries, laterSpan n = .hash entries → Entries.Ascending entries := by
    intro n entries h
    obtain rfl := Value.hash.inj h
    have hkeys : ["start", "stop"].Pairwise (· < ·) := by decide
    exact hkeys
  have hiff := default_eq_fixed_iff (build_spanDeclaration (.lazy laterSpan)) rfl ascending {} 3 0
  refine ⟨ascending, hiff.2.1.mpr fun _ => ?_⟩
  exact unseen_of_keys (ascending 3 _ rfl) (ascending 4 _ rfl) (fun key hk => hk) 0

/-! ### A default of two values -/

/-- A span that has only a start at first, and later only a stop. -/
def brokenSpan (n : Nat) : Value :=
  if n = 0 then .hash [("start", .integer 1)] else .hash [("stop", .integer 2)]

/-- Neither value passes the filter, and what comes out is of both. -/
theorem default_mixes_span :
    (spanDeclaration (.lazy brokenSpan)).buildAs Registry.builtin "span" =
      .ok (spanFilter (.lazy brokenSpan)) ∧
    (spanFilter (.lazy brokenSpan)).default {} 0 =
      .ok (.hash [("start", .integer 1), ("stop", .integer 2)]) ∧
    (spanFilter (.fixed (brokenSpan 0))).default {} 0 =
      .error (.invalidDefault "span" (.hash [("start", .integer 1)])
        (some (.nested "span" ⟨"span", [.key "stop"]⟩
          (.hash [("start", .integer 1), ("stop", .nil)])))) ∧
    (spanFilter (.lazy brokenSpan)).default {} 0 ≠
      (spanFilter (.fixed (brokenSpan 0))).default {} 0 := by
  have hmixed : (spanFilter (.lazy brokenSpan)).default {} 0 =
      .ok (.hash [("start", .integer 1), ("stop", .integer 2)]) := by rfl
  have hfirst : (spanFilter (.fixed (brokenSpan 0))).default {} 0 =
      .error (.invalidDefault "span" (.hash [("start", .integer 1)])
        (some (.nested "span" ⟨"span", [.key "stop"]⟩
          (.hash [("start", .integer 1), ("stop", .nil)])))) := by rfl
  refine ⟨rfl, hmixed, hfirst, ?_⟩
  rw [hmixed, hfirst]
  exact fun h => absurd h (by simp)

end Filter

end Intake
