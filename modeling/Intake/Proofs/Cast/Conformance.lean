import Intake.Proofs.Cast.Success
import Intake.Proofs.Filter.Kind
import Intake.Registry.Builtin

/-!
# Conforming values

A value `Conforms` to a filter if it is what the declaration promises, all the way down: a value of
the kind, or a container whose parts conform to the nested filters; nil only where it is accepted.
What a cast gives conforms: `cast_conforms`.
-/

namespace Intake.Filter

/-- A value is what a filter promises. -/
inductive Conforms (ctx : Context) : Filter → Value → Prop where
  | nil {filter : Filter} (accepts : filter.acceptsNil = true) : Conforms ctx filter .nil
  | scalar {head : Head} {rule : Scalar} {value : Value} (gives : rule.Gives ctx value) :
      Conforms ctx (scalar head rule) value
  | array {head : Head} (items : List Value) : Conforms ctx (array head) (.array items)
  | items {head : Head} {element : Filter} {items : List Value}
      (conform : ∀ item ∈ items, Conforms ctx element item) :
      Conforms ctx (arrayOf head element) (.array items)
  | hash {head : Head} (entries : Entries Value) : Conforms ctx (hash head []) (.hash entries)
  /-- Every field has an entry, and there are other entries only where they are kept. -/
  | fields {head : Head} {fields : List Filter} {entries : Entries Value} (nonempty : fields ≠ [])
      (present : ∀ field ∈ fields, field.name ∈ entries.keys)
      (conform : ∀ field ∈ fields, Conforms ctx field (entries.value field.name))
      (stripped : head.options.strip = true →
        ∀ key ∈ entries.keys, key ∈ fields.map Filter.name) :
      Conforms ctx (hash head fields) (.hash entries)

variable {ctx : Context} {drawn : Nat} {filter : Filter} {value result : Value}

/-- Nil conforms only to filters that accept it. -/
theorem acceptsNil_of_conforms_nil (h : filter.Conforms ctx .nil) : filter.acceptsNil = true := by
  cases h with
  | nil accepts => exact accepts
  | scalar gives => exact absurd rfl gives.ne_nil

/-- What comes of a cast that goes well conforms. -/
theorem conforms_of_cast (filter : Filter) : filter.Distinct →
    (∀ node ∈ filter.nodes, node.isHost = false) → ∀ {value result : Value},
      filter.cast ctx drawn value = .ok result → filter.Conforms ctx result := by
  induction filter using Filter.ind with
  | step filter ih =>
    intro hd hhost value result h
    have hchild : ∀ child ∈ filter.children, ∀ {value result : Value},
        child.cast ctx drawn value = .ok result → child.Conforms ctx result := fun child hc =>
      ih child hc (hd.child hc) fun node hn => hhost node (mem_nodes_of_child hc hn)
    cases cast_eq_ok_iff_castsTo.mp h with
    | nil accepts => exact .nil accepts
    | @scalar head rule _ _ hread =>
      refine .scalar (Scalar.gives_of_read ?_ hread)
      rintro read rfl
      exact absurd (hhost _ (mem_nodes_self _)) (by simp [isHost])
    | array items => exact .array items
    | @items head element items results casts =>
      refine .items fun result hr => ?_
      obtain ⟨item, _, hitem⟩ := exists_mem_of_forall₂ casts hr
      exact hchild element (List.mem_singleton_self element) hitem
    | hash entries => exact .hash entries
    | @fields head fields entries give nonempty casts =>
      have hget : ∀ field ∈ fields,
          (head.assemble (head.merged drawn entries) fields give).get? field.name =
            some (give field) := fun field hf => Head.get?_assemble hd.names _ hf
      refine .fields nonempty ?_ ?_ fun hstrip key hk => Head.mem_fields_of_mem_keys hstrip hk
      · intro field hf
        rw [← Entries.contains_iff, Entries.contains, hget field hf, Option.isSome_some]
      · intro field hf
        rw [Entries.value_of_get? (hget field hf)]
        exact hchild field hf (casts field hf)

/-- **What a filter casts a value to is what the filter promises.** -/
theorem cast_conforms {registry : Registry} {declaration : Declaration} {name : String}
    (built : declaration.buildAs registry name = .ok filter)
    (builtin : ∀ node ∈ filter.nodes, node.isHost = false)
    (cast : filter.cast ctx drawn value = .ok result) :
    filter.Conforms ctx result ∧ (result = .nil → filter.acceptsNil = true) := by
  have hconforms := conforms_of_cast filter (Declaration.distinct_of_buildAs built) builtin cast
  refine ⟨hconforms, ?_⟩
  rintro rfl
  exact acceptsNil_of_conforms_nil hconforms

/-- A visit: when, by whom, and what it is about, if anything. -/
def visitDeclaration : Declaration :=
  ⟨"hash", some "visit", {},
    [⟨"time", some "at", {}, []⟩,
      ⟨"string", some "name", {}, []⟩,
      ⟨"array", some "topics", { allowNil := true }, [⟨"symbol", none, {}, []⟩]⟩]⟩

def visitFilter : Filter :=
  .hash ⟨"visit", "hash", {}⟩
    [.scalar ⟨"at", "time", {}⟩ (.time none),
      .scalar ⟨"name", "string", {}⟩ (.string true),
      .arrayOf ⟨"topics", "array", { allowNil := true }⟩ (.scalar ⟨"topics", "symbol", {}⟩ .symbol)]

/-- One hour east of UTC. -/
def visitContext : Context where
  zone := some { seconds := 3600 }

/-- The first second of 1970 in UTC, shown one hour east of it. -/
def visitMoment : Calendar.Moment where
  utc := ⟨⟨1970, 1, 1, by decide⟩, .midnight⟩
  offset := { seconds := 3600 }

theorem cast_conforms_visit :
    visitDeclaration.buildAs Registry.builtin "visit" = .ok visitFilter ∧
    (∀ node ∈ visitFilter.nodes, node.isHost = false) ∧
    visitFilter.cast visitContext 0
        (.hash [("at", .integer 0), ("name", .string " Ada "), ("seat", .integer 4)]) =
      .ok (.hash [("at", .time visitMoment), ("name", .string "Ada"), ("topics", .nil)]) ∧
    visitFilter.Conforms visitContext
      (.hash [("at", .time visitMoment), ("name", .string "Ada"), ("topics", .nil)]) := by
  have built : visitDeclaration.buildAs Registry.builtin "visit" = .ok visitFilter := by rfl
  have builtin : ∀ node ∈ visitFilter.nodes, node.isHost = false := by decide
  have cast : visitFilter.cast visitContext 0
        (.hash [("at", .integer 0), ("name", .string " Ada "), ("seat", .integer 4)]) =
      .ok (.hash [("at", .time visitMoment), ("name", .string "Ada"), ("topics", .nil)]) := by rfl
  exact ⟨built, builtin, cast, (cast_conforms built builtin cast).1⟩

end Intake.Filter
