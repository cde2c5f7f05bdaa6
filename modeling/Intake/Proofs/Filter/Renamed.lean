import Intake.Proofs.Filter.Built
import Intake.Registry.Builtin

/-!
# Filters under another name

The name of a filter is handed on to its elements and to theirs, but not past a hash, whose fields
have names of their own.  So a filter that is built under another name is the same filter with the
other name at these places: `renamed_of_buildAs`.

This is so unless a kind makes something else of another name.  The built-in kinds ignore the name,
but for objects, records and interfaces that are given no class and take it from the name
(`ignoresName_or`).  A kind of the host has the name, and may do with it what it likes.
-/

namespace Intake

namespace Filter

/-- A filter with another name, which its elements inherit. -/
inductive Renamed (name name' : String) : Filter → Filter → Prop where
  | scalar (slug : String) (options : Options) (rule : Scalar) :
      Renamed name name' (.scalar ⟨name, slug, options⟩ rule) (.scalar ⟨name', slug, options⟩ rule)
  | array (slug : String) (options : Options) :
      Renamed name name' (.array ⟨name, slug, options⟩) (.array ⟨name', slug, options⟩)
  | arrayOf (slug : String) (options : Options) {element element' : Filter}
      (below : Renamed name name' element element') :
      Renamed name name' (.arrayOf ⟨name, slug, options⟩ element)
        (.arrayOf ⟨name', slug, options⟩ element')
  | hash (slug : String) (options : Options) (fields : List Filter) :
      Renamed name name' (.hash ⟨name, slug, options⟩ fields) (.hash ⟨name', slug, options⟩ fields)

end Filter

/-! ### Kinds that ignore the name -/

/-- A kind makes of a definition no other rule under another name. -/
def Constructor.Keeps (definition : Definition) (name' : String) : Constructor → Prop
  | scalar make => ∀ rule rule', make definition = .ok rule →
      make { definition with name := name' } = .ok rule' → rule = rule'
  | _ => True

def Constructor.IgnoresName (constructor : Constructor) : Prop :=
  ∀ definition name', constructor.Keeps definition name'

/-- A kind of the host is one that is not built in. -/
def Constructor.IsHost (constructor : Constructor) : Prop :=
  ∀ typeName, (typeName, constructor) ∉ Registry.builtinKinds

/-- A kind makes a rule of the host where it is told nothing. -/
def Constructor.makesHost : Constructor → Bool
  | scalar make =>
    match make ⟨"", "", {}, [], []⟩ with
    | .ok (.host _) => true
    | _ => false
  | _ => false

theorem Constructor.isHost_of_makesHost {constructor : Constructor}
    (h : constructor.makesHost = true) : constructor.IsHost := by
  have hbuiltin : ∀ entry ∈ Registry.builtinKinds, entry.2.makesHost = false := by decide
  intro typeName hmem
  exact absurd (h.symm.trans (hbuiltin _ hmem)) (by decide)

namespace Scalar

variable {definition definition' : Definition} {next next' : Unit → Except DefinitionError Scalar}
  {rule rule' : Scalar}

/-- A class that is given is not looked up by the name of the filter. -/
theorem resolveClass_of_isSome {explicit : Option String} (h : explicit.isSome = true)
    (name' : String) :
    Definition.resolveClass { definition with name := name' } explicit =
      definition.resolveClass explicit := by
  obtain ⟨className, rfl⟩ := Option.isSome_iff_exists.mp h
  rfl

/-- What a kind makes is made after it has refused nested declarations, and that makes no
difference to it. -/
theorem eq_of_refuseNested (same : next () = next' ())
    (made : (definition.refuseNested >>= next) = .ok rule)
    (made' : (definition'.refuseNested >>= next') = .ok rule') : rule = rule' := by
  obtain ⟨_, _, hrule⟩ := bind_eq_ok.mp made
  obtain ⟨_, _, hrule'⟩ := bind_eq_ok.mp made'
  exact Except.ok.inj (hrule.symm.trans (same.trans hrule'))

theorem ignoresName_plain {rule : Definition → Scalar}
    (h : ∀ definition name', rule { definition with name := name' } = rule definition) :
    (Constructor.scalar (plain rule)).IgnoresName := by
  intro definition name' made made' hmade hmade'
  exact eq_of_refuseNested (congrArg Except.ok (h definition name').symm) hmade hmade'

theorem ignoresName_makeDecimal : (Constructor.scalar makeDecimal).IgnoresName := by
  intro definition name' rule rule' made made'
  obtain ⟨_, _, hrule⟩ := bind_eq_ok.mp made
  obtain ⟨_, _, hrule'⟩ := bind_eq_ok.mp made'
  by_cases hzero : definition.options.digits.getD defaultDigits = 0
  · simp only [hzero, if_pos] at hrule
    exact absurd hrule (by simp [throw, throwThe, MonadExceptOf.throw, bind, Except.bind])
  · simp only [hzero, if_false] at hrule hrule'
    exact Except.ok.inj (hrule.symm.trans hrule')

theorem keeps_makeObject (h : definition.options.className.isSome = true) (name' : String) :
    (Constructor.scalar makeObject).Keeps definition name' := by
  intro rule rule' made made'
  refine eq_of_refuseNested ?_ made made'
  simp only [resolveClass_of_isSome h]

theorem keeps_makeRecord (h : definition.options.className.isSome = true) (name' : String) :
    (Constructor.scalar makeRecord).Keeps definition name' := by
  intro rule rule' made made'
  refine eq_of_refuseNested ?_ made made'
  simp only [resolveClass_of_isSome h]

theorem keeps_makeInterface
    (h : definition.options.ancestor.isSome = true ∨ definition.options.methods ≠ [])
    (name' : String) : (Constructor.scalar makeInterface).Keeps definition name' := by
  intro rule rule' made made'
  by_cases hmethods : definition.options.methods.isEmpty = true
  · have hancestor : definition.options.ancestor.isSome = true :=
      h.resolve_right fun hne => hne (List.isEmpty_iff.mp hmethods)
    refine eq_of_refuseNested ?_ made made'
    simp only [hmethods, if_true, resolveClass_of_isSome hancestor]
  · obtain ⟨_, _, hrule⟩ := bind_eq_ok.mp made
    obtain ⟨_, _, hrule'⟩ := bind_eq_ok.mp made'
    by_cases hancestor : definition.options.ancestor.isSome = true
    · simp only [hmethods, hancestor, if_true] at hrule
      exact absurd hrule (by simp [throw, throwThe, MonadExceptOf.throw])
    · simp only [hmethods, hancestor] at hrule hrule'
      exact Except.ok.inj (hrule.symm.trans hrule')

end Scalar

/-- Of the built-in kinds all ignore the name but the three that look at classes. -/
theorem Registry.ignoresName_or : ∀ entry ∈ builtinKinds,
    entry.2.IgnoresName ∨ entry.2 = .scalar Scalar.makeObject ∨
      entry.2 = .scalar Scalar.makeRecord ∨ entry.2 = .scalar Scalar.makeInterface := by
  have plain := @Scalar.ignoresName_plain
  simp only [builtinKinds, List.forall_mem_cons]
  exact ⟨.inl fun _ _ => trivial, .inl (plain fun _ _ => rfl), .inl (plain fun _ _ => rfl),
    .inl (plain fun _ _ => rfl), .inl Scalar.ignoresName_makeDecimal,
    .inl (plain fun _ _ => rfl), .inl (plain fun _ _ => rfl), .inl fun _ _ => trivial,
    .inl (plain fun _ _ => rfl), .inr (.inr (.inr trivial)), .inr (.inl trivial),
    .inr (.inr (.inl trivial)), .inl (plain fun _ _ => rfl), .inl (plain fun _ _ => rfl),
    .inl (plain fun _ _ => rfl), fun entry he => absurd he List.not_mem_nil⟩

namespace Declaration

variable {registry : Registry} {name name' : String} {declaration : Declaration} {a b : Filter}

/-- The declarations whose filters have the name of a filter: its own, and those that are reached
through arrays alone. -/
inductive Inherits (registry : Registry) : Declaration → Declaration → Prop where
  | own (declaration : Declaration) : Inherits registry declaration declaration
  | element {slug : String} {own : Option String} {options : Options} {nested heir : Declaration}
      (kind : registry.kind slug = .ok .array) (below : Inherits registry nested heir) :
      Inherits registry ⟨slug, own, options, [nested]⟩ heir

/-- An object, a record or an interface does not take its class from its name. -/
structure NamesClass (registry : Registry) (declaration : Declaration) : Prop where
  object : registry.kind declaration.slug = .ok (.scalar Scalar.makeObject) →
    declaration.options.className.isSome = true
  record : registry.kind declaration.slug = .ok (.scalar Scalar.makeRecord) →
    declaration.options.className.isSome = true
  interface : registry.kind declaration.slug = .ok (.scalar Scalar.makeInterface) →
    declaration.options.ancestor.isSome = true ∨ declaration.options.methods ≠ []

theorem NamesClass.of_array (kind : registry.kind declaration.slug = .ok .array) :
    declaration.NamesClass registry := by
  constructor <;> exact fun other => absurd (kind.symm.trans other) (by simp)

theorem NamesClass.of_isHost {constructor : Constructor}
    (kind : registry.kind declaration.slug = .ok constructor) (host : constructor.IsHost) :
    declaration.NamesClass registry := by
  have hne : ∀ typeName other, (typeName, other) ∈ Registry.builtinKinds →
      registry.kind declaration.slug ≠ .ok other := by
    intro typeName other hmem hother
    obtain rfl := Except.ok.inj (kind.symm.trans hother)
    exact host typeName hmem
  constructor
  · exact fun h => absurd h (hne "ObjectFilter" _ (by simp [Registry.builtinKinds]))
  · exact fun h => absurd h (hne "RecordFilter" _ (by simp [Registry.builtinKinds]))
  · exact fun h => absurd h (hne "InterfaceFilter" _ (by simp [Registry.builtinKinds]))

/-- What a kind is told of a declaration that is built under a name. -/
def definition (registry : Registry) (name : String) (declaration : Declaration) : Definition :=
  ⟨name, declaration.slug, declaration.options, declaration.children, registry.classes⟩

/-- A kind keeps the rule of a declaration that names its class. -/
theorem NamesClass.keeps {constructor : Constructor} (names : declaration.NamesClass registry)
    (kind : registry.kind declaration.slug = .ok constructor)
    (host : constructor.IsHost → constructor.Keeps (declaration.definition registry name) name') :
    constructor.Keeps (declaration.definition registry name) name' := by
  by_cases hhost : constructor.IsHost
  · exact host hhost
  · obtain ⟨typeName, hmem⟩ := not_forall_not.mp hhost
    rcases Registry.ignoresName_or _ hmem with hignores | rfl | rfl | rfl
    · exact hignores _ _
    · exact Scalar.keeps_makeObject (names.object kind) _
    · exact Scalar.keeps_makeRecord (names.record kind) _
    · exact Scalar.keeps_makeInterface (names.interface kind) _

theorem keeps_of_kind {known : Constructor} (kind : registry.kind declaration.slug = .ok known)
    (keeps : known.IsHost → known.Keeps (declaration.definition registry name) name') :
    ∀ constructor, registry.kind declaration.slug = .ok constructor → constructor.IsHost →
      constructor.Keeps (declaration.definition registry name) name' := by
  intro constructor other
  obtain rfl := Except.ok.inj (kind.symm.trans other)
  exact keeps

/-- There is one filter to a declaration and a name. -/
theorem Built.eq (h : Built registry name declaration a)
    (built : declaration.buildAs registry name = .ok b) : a = b :=
  Except.ok.inj ((buildAs_of_built h).symm.trans built)

/-- A filter that is built under another name is the filter with another name. -/
theorem renamed_of_buildAs {a : Filter} : ∀ {b : Filter} {declaration : Declaration},
    declaration.buildAs registry name = .ok a → declaration.buildAs registry name' = .ok b →
      (∀ heir, declaration.Inherits registry heir → heir.NamesClass registry) →
      (∀ heir, declaration.Inherits registry heir → ∀ constructor,
        registry.kind heir.slug = .ok constructor → constructor.IsHost →
          constructor.Keeps (heir.definition registry name) name') →
      a.Renamed name name' b := by
  induction a using Filter.ind with
  | step a ih =>
    intro b declaration built built' classes hosts
    have own : declaration.Inherits registry declaration := .own declaration
    cases built_of_buildAs built with
    | @scalar slug own' options children make rule kind made =>
      rw [buildAs, kind] at built'
      obtain ⟨rule', made', rfl⟩ := map_eq_ok.mp built'
      have hkeeps := (classes _ own).keeps kind (hosts _ own _ kind)
      obtain rfl := hkeeps rule rule' made made'
      exact .scalar _ _ _
    | array kind =>
      obtain rfl := Built.eq (.array kind) built'
      exact .array _ _
    | @arrayOf slug own' options nested element kind unnamed default build =>
      cases built_of_buildAs built' with
      | arrayOf _ _ _ build' =>
        refine .arrayOf _ _ (ih element (List.mem_singleton_self _) build build' ?_ ?_)
        · exact fun heir h => classes heir (.element kind h)
        · exact fun heir h => hosts heir (.element kind h)
      | scalar other => exact absurd (kind.symm.trans other) (by simp)
      | hash other => exact absurd (kind.symm.trans other) (by simp)
    | hash kind build names =>
      -- the fields are built under their own names
      obtain rfl := Built.eq (.hash kind build names) built'
      exact .hash _ _ _

end Declaration

end Intake
