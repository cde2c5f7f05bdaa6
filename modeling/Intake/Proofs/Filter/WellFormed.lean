import Intake.Proofs.Entries
import Intake.Proofs.Filter.Built
import Intake.Registry.Builtin

/-!
# Well-formed declarations

Which declarations can be built with the built-in kinds, and any classes.  `Fits` says what a kind
without nested declarations asks of the options, `WellFormed` what is asked of a whole tree.  Neither
mentions how filters are built.  Building succeeds on the well-formed declarations with names of
their own, and on no others: `exists_build_iff`.
-/

namespace Intake

theorem exists_bind_eq_ok {ε α β : Type} {x : Except ε α} {f : α → Except ε β} :
    (∃ b, (x >>= f) = .ok b) ↔ ∃ a, x = .ok a ∧ ∃ b, f a = .ok b := by
  simp only [bind_eq_ok]
  constructor
  · rintro ⟨b, a, ha, hb⟩
    exact ⟨a, ha, b, hb⟩
  · rintro ⟨a, ha, b, hb⟩
    exact ⟨b, a, ha, hb⟩

theorem pure_eq_ok {ε α : Type} (a : α) : (pure a : Except ε α) = .ok a := rfl

theorem throw_eq_error {ε α : Type} (e : ε) : (throw e : Except ε α) = .error e := rfl

theorem exists_forall₂ {α β : Type} {r : α → β → Prop} {as : List α} (h : ∀ a ∈ as, ∃ b, r a b) :
    ∃ bs, List.Forall₂ r as bs := by
  induction as with
  | nil => exact ⟨[], .nil⟩
  | cons a as ih =>
    obtain ⟨b, hb⟩ := h a List.mem_cons_self
    obtain ⟨bs, hbs⟩ := ih fun a' ha' => h a' (List.mem_cons_of_mem _ ha')
    exact ⟨b :: bs, .cons hb hbs⟩

/-! ### Classes and methods -/

def Classes.Has (classes : Classes) (name : String) (cls : Class) : Prop :=
  ClassName.isClassName name = true ∧ classes.get? name = some cls

theorem Classes.find_eq_ok_iff {classes : Classes} {name : String} {cls : Class} :
    classes.find name = .ok cls ↔ classes.Has name cls := by
  rw [find, Has]
  split
  · next hname =>
    rw [and_iff_right hname]
    cases classes.get? name with
    | some other => simp
    | none => simp
  · next hname => simp [hname]

theorem Class.exists_method?_eq_ok_iff {cls : Class} {name : String} :
    (∃ method, cls.method? name = .ok method) ↔ name ∈ cls.methods.keys := by
  rw [method?, ← Entries.contains_iff, Entries.contains]
  cases cls.methods.get? name with
  | some method => simp
  | none => simp

/-! ### Scalar kinds -/

namespace Declaration

/-- The kinds that ask nothing of the options. -/
def plainSlugs : List String :=
  ["boolean", "date", "date_time", "file", "float", "integer", "string", "symbol", "time"]

/-- The options are what a scalar kind, known by its slug, asks for. -/
def Fits (classes : Classes) (name : String) (options : Options) : String → Prop
  | "decimal" => options.digits ≠ some 0
  | "object" => ∃ cls, classes.Has (options.className.getD (ClassName.camelize name)) cls ∧
      ∀ method, options.converter = some (.method method) → method ∈ cls.methods.keys
  | "record" => ∃ cls, classes.Has (options.className.getD (ClassName.camelize name)) cls ∧
      options.finder.getD "find" ∈ cls.methods.keys
  | "interface" =>
    (options.methods ≠ [] ∧ options.ancestor = none) ∨
    (options.methods = [] ∧
      ∃ cls, classes.Has (options.ancestor.getD (ClassName.camelize name)) cls)
  | slug => slug ∈ plainSlugs

theorem fits_of_mem_plainSlugs {classes : Classes} {name slug : String} {options : Options}
    (h : slug ∈ plainSlugs) : Fits classes name options slug := by
  unfold Fits
  split
  · exact absurd h (by decide)
  · exact absurd h (by decide)
  · exact absurd h (by decide)
  · exact absurd h (by decide)
  · exact h

end Declaration

namespace Definition

variable {definition : Definition}

theorem exists_refuseNested_bind_iff {β : Type} {f : Unit → Except DefinitionError β} :
    (∃ b, (definition.refuseNested >>= f) = .ok b) ↔
      definition.children = [] ∧ ∃ b, f () = .ok b := by
  rw [exists_bind_eq_ok, refuseNested]
  cases definition.children with
  | nil => exact ⟨fun ⟨_, _, h⟩ => ⟨rfl, h⟩, fun ⟨_, h⟩ => ⟨(), rfl, h⟩⟩
  | cons child rest => simp

theorem resolveClass_eq_ok_iff {explicit : Option String} {cls : Class} :
    definition.resolveClass explicit = .ok cls ↔
      definition.classes.Has (explicit.getD (ClassName.camelize definition.name)) cls :=
  Classes.find_eq_ok_iff

end Definition

namespace Scalar

open Definition Declaration

variable {definition : Definition}

theorem exists_plain_iff {rule : Definition → Scalar} (h : definition.slug ∈ plainSlugs) :
    (∃ scalar, plain rule definition = .ok scalar) ↔
      definition.children = [] ∧
        Fits definition.classes definition.name definition.options definition.slug := by
  rw [plain, exists_refuseNested_bind_iff]
  exact and_congr_right fun _ => iff_of_true ⟨_, rfl⟩ (fits_of_mem_plainSlugs h)

theorem exists_makeDecimal_iff :
    (∃ scalar, makeDecimal definition = .ok scalar) ↔
      definition.children = [] ∧
        Fits definition.classes definition.name definition.options "decimal" := by
  rw [makeDecimal, exists_refuseNested_bind_iff]
  refine and_congr_right fun _ => ?_
  have hzero : definition.options.digits.getD defaultDigits = 0 ↔
      definition.options.digits = some 0 := by
    cases definition.options.digits with
    | none => simp [defaultDigits]
    | some digits => simp
  dsimp only
  rw [Fits]
  split
  · next h =>
    refine iff_of_false ?_ fun hne => hne (hzero.mp h)
    rw [exists_bind_eq_ok]
    simp [throw_eq_error]
  · next h =>
    refine iff_of_true ?_ fun he => h (hzero.mpr he)
    exact ⟨_, rfl⟩

theorem exists_makeObject_iff :
    (∃ scalar, makeObject definition = .ok scalar) ↔
      definition.children = [] ∧
        Fits definition.classes definition.name definition.options "object" := by
  rw [makeObject, exists_refuseNested_bind_iff]
  refine and_congr_right fun _ => ?_
  rw [exists_bind_eq_ok]
  refine exists_congr fun cls => and_congr resolveClass_eq_ok_iff ?_
  cases definition.options.converter with
  | none => simp [pure_eq_ok]
  | some converter =>
    dsimp only
    rw [exists_bind_eq_ok]
    cases converter with
    | method name => simp [Converter.resolve, pure_eq_ok, Class.exists_method?_eq_ok_iff]
    | function convert => simp [Converter.resolve, pure_eq_ok]

theorem exists_makeRecord_iff :
    (∃ scalar, makeRecord definition = .ok scalar) ↔
      definition.children = [] ∧
        Fits definition.classes definition.name definition.options "record" := by
  rw [makeRecord, exists_refuseNested_bind_iff]
  refine and_congr_right fun _ => ?_
  rw [exists_bind_eq_ok]
  refine exists_congr fun cls => and_congr resolveClass_eq_ok_iff ?_
  rw [exists_bind_eq_ok]
  simp [pure_eq_ok, Class.exists_method?_eq_ok_iff, defaultFinder]

theorem exists_makeInterface_iff :
    (∃ scalar, makeInterface definition = .ok scalar) ↔
      definition.children = [] ∧
        Fits definition.classes definition.name definition.options "interface" := by
  rw [makeInterface, exists_refuseNested_bind_iff]
  refine and_congr_right fun _ => ?_
  dsimp only
  rw [Fits]
  cases hm : definition.options.methods with
  | nil =>
    rw [List.isEmpty_nil, if_pos rfl, exists_bind_eq_ok]
    simp [pure_eq_ok, resolveClass_eq_ok_iff]
  | cons method rest =>
    cases definition.options.ancestor with
    | none => simp [pure_eq_ok]
    | some ancestor => simp [throw_eq_error]

end Scalar

/-! ### The built-in kinds -/

namespace Registry

def ofClasses (classes : Classes) : Registry :=
  { builtin with classes }

theorem kinds_builtin : builtin.kinds =
    [("array", .array),
      ("boolean", .scalar (Scalar.plain fun _ => .boolean)),
      ("date", .scalar (Scalar.plain fun definition => .date definition.options.layout)),
      ("date_time", .scalar (Scalar.plain fun definition => .dateTime definition.options.layout)),
      ("decimal", .scalar Scalar.makeDecimal),
      ("file", .scalar (Scalar.plain fun _ => .file)),
      ("float", .scalar (Scalar.plain fun _ => .float)),
      ("hash", .hash),
      ("integer", .scalar (Scalar.plain fun _ => .integer)),
      ("interface", .scalar Scalar.makeInterface),
      ("object", .scalar Scalar.makeObject),
      ("record", .scalar Scalar.makeRecord),
      ("string", .scalar (Scalar.plain fun definition => .string definition.options.strip)),
      ("symbol", .scalar (Scalar.plain fun _ => .symbol)),
      ("time", .scalar (Scalar.plain fun definition => .time definition.options.layout))] := by
  rfl

variable {classes : Classes} {slug : String}

theorem kind_eq_ok_iff {constructor : Constructor} :
    (ofClasses classes).kind slug = .ok constructor ↔ (slug, constructor) ∈ builtin.kinds := by
  have hnodup : builtin.kinds.keys.Nodup := by
    rw [kinds_builtin]
    decide
  have hget : (ofClasses classes).kind slug = .ok constructor ↔
      builtin.kinds.get? slug = some constructor := by
    rw [kind, ofClasses]
    cases builtin.kinds.get? slug with
    | some other => simp
    | none => simp
  rw [hget]
  exact ⟨Entries.mem_of_get?, Entries.get?_of_mem hnodup⟩

theorem kind_eq_array_iff : (ofClasses classes).kind slug = .ok .array ↔ slug = "array" := by
  rw [kind_eq_ok_iff, kinds_builtin]
  simp

theorem kind_eq_hash_iff : (ofClasses classes).kind slug = .ok .hash ↔ slug = "hash" := by
  rw [kind_eq_ok_iff, kinds_builtin]
  simp

inductive Makes : String → (Definition → Except DefinitionError Scalar) → Prop where
  | plain {slug : String} (h : slug ∈ Declaration.plainSlugs) (rule : Definition → Scalar) :
      Makes slug (Scalar.plain rule)
  | decimal : Makes "decimal" Scalar.makeDecimal
  | interface : Makes "interface" Scalar.makeInterface
  | object : Makes "object" Scalar.makeObject
  | record : Makes "record" Scalar.makeRecord

variable {make : Definition → Except DefinitionError Scalar}

theorem makes_of_kind (h : (ofClasses classes).kind slug = .ok (.scalar make)) :
    Makes slug make := by
  rw [kind_eq_ok_iff, kinds_builtin] at h
  simp only [List.mem_cons, Prod.mk.injEq, Constructor.scalar.injEq, reduceCtorEq, and_false,
    List.not_mem_nil, or_false, false_or] at h
  rcases h with ⟨rfl, rfl⟩ | ⟨rfl, rfl⟩ | ⟨rfl, rfl⟩ | ⟨rfl, rfl⟩ | ⟨rfl, rfl⟩ | ⟨rfl, rfl⟩ |
    ⟨rfl, rfl⟩ | ⟨rfl, rfl⟩ | ⟨rfl, rfl⟩ | ⟨rfl, rfl⟩ | ⟨rfl, rfl⟩ | ⟨rfl, rfl⟩ | ⟨rfl, rfl⟩
  all_goals first | exact .plain (by decide) _ | constructor

/-- A scalar kind makes a filter where there are no nested declarations and the options fit. -/
theorem exists_make_iff (h : (ofClasses classes).kind slug = .ok (.scalar make)) (name : String)
    (options : Options) (children : List Declaration) :
    (∃ rule, make ⟨name, slug, options, children, classes⟩ = .ok rule) ↔
      children = [] ∧ Declaration.Fits classes name options slug := by
  cases makes_of_kind h with
  | plain hmem rule => exact Scalar.exists_plain_iff hmem
  | decimal => exact Scalar.exists_makeDecimal_iff
  | interface => exact Scalar.exists_makeInterface_iff
  | object => exact Scalar.exists_makeObject_iff
  | record => exact Scalar.exists_makeRecord_iff

theorem exists_kind_of_fits {name : String} {options : Options}
    (h : Declaration.Fits classes name options slug) :
    ∃ make, (ofClasses classes).kind slug = .ok (.scalar make) := by
  have hkinds : ∃ make, (slug, Constructor.scalar make) ∈ builtin.kinds := by
    rw [kinds_builtin]
    unfold Declaration.Fits at h
    split at h
    · simp
    · simp
    · simp
    · simp
    · simp only [Declaration.plainSlugs, List.mem_cons, List.not_mem_nil, or_false] at h
      rcases h with rfl | rfl | rfl | rfl | rfl | rfl | rfl | rfl | rfl
      all_goals simp
  obtain ⟨make, hmake⟩ := hkinds
  exact ⟨make, kind_eq_ok_iff.mpr hmake⟩

end Registry

/-! ### Declaration trees -/

namespace Declaration

/-- Declarations all have names, no two the same. -/
structure NamedApart (declarations : List Declaration) : Prop where
  named : ∀ declaration ∈ declarations, declaration.name ≠ none
  nodup : (declarations.map Declaration.name).Nodup

/-- What is asked of a declaration that goes by a name, whatever its own name is. -/
inductive WellFormed (classes : Classes) : String → Declaration → Prop where
  | scalar {name slug : String} {own : Option String} {options : Options}
      (fits : Fits classes name options slug) : WellFormed classes name ⟨slug, own, options, []⟩
  /-- An array may be without an element. -/
  | array {name : String} {own : Option String} {options : Options} :
      WellFormed classes name ⟨"array", own, options, []⟩
  /-- The element of an array goes by the name of the array. -/
  | arrayOf {name : String} {own : Option String} {options : Options} {element : Declaration}
      (unnamed : element.name = none) (default : element.options.default = none)
      (wellFormed : WellFormed classes name element) :
      WellFormed classes name ⟨"array", own, options, [element]⟩
  | hash {name : String} {own : Option String} {options : Options} {fields : List Declaration}
      (names : NamedApart fields) (default : ∀ field ∈ fields, field.options.default = none)
      (wellFormed : ∀ field ∈ fields, ∀ key, field.name = some key →
        WellFormed classes key field) :
      WellFormed classes name ⟨"hash", own, options, fields⟩

variable {classes : Classes} {name : String} {declaration : Declaration}

/-- Filters that go by the names of declarations are named apart just like these. -/
theorem namedApart_iff_of_forall₂ {declarations : List Declaration} {filters : List Filter}
    (h : List.Forall₂ (fun declaration filter => declaration.name = some filter.name) declarations
      filters) : NamedApart declarations ↔ (filters.map Filter.name).Nodup := by
  have hnames : declarations.map Declaration.name = (filters.map Filter.name).map some := by
    rw [List.map_map, ← List.forall₂_eq_eq_eq, List.forall₂_map_left_iff,
      List.forall₂_map_right_iff]
    exact h
  constructor
  · intro hapart
    exact List.Nodup.of_map some (hnames ▸ hapart.nodup)
  · intro hnodup
    refine ⟨fun declaration hd => ?_, hnames ▸ hnodup.map fun _ _ => Option.some.inj⟩
    obtain ⟨filter, _, hname⟩ := exists_mem_of_forall₂ h.flip hd
    rw [hname]
    exact Option.some_ne_none _

/-- Declarations give filters with different names if and only if they are named apart and can be
built one by one. -/
theorem exists_builds_iff {registry : Registry} {declarations : List Declaration} :
    (∃ filters, List.Forall₂ (fun declaration filter => declaration.build registry = .ok filter)
        declarations filters ∧ (filters.map Filter.name).Nodup) ↔
      NamedApart declarations ∧
        ∀ declaration ∈ declarations, ∀ name, declaration.name = some name →
          ∃ filter, declaration.buildAs registry name = .ok filter := by
  constructor
  · rintro ⟨filters, hbuilt, hnodup⟩
    have hnames := hbuilt.imp fun _ _ hb => (build_eq_ok_iff.mp hb).1
    refine ⟨(namedApart_iff_of_forall₂ hnames).mpr hnodup, fun declaration hd name hname => ?_⟩
    obtain ⟨filter, _, hb⟩ := exists_mem_of_forall₂ hbuilt.flip hd
    obtain ⟨hown, hbuild⟩ := build_eq_ok_iff.mp hb
    obtain rfl : filter.name = name := Option.some.inj (hown.symm.trans hname)
    exact ⟨filter, hbuild⟩
  · rintro ⟨hapart, hbuild⟩
    have hfilters : ∀ declaration ∈ declarations, ∃ filter,
        declaration.build registry = .ok filter := by
      intro declaration hd
      obtain ⟨name, hname⟩ := Option.ne_none_iff_exists'.mp (hapart.named declaration hd)
      obtain ⟨filter, hfilter⟩ := hbuild declaration hd name hname
      obtain rfl : filter.name = name := name_of_buildAs hfilter
      exact ⟨filter, build_eq_ok_iff.mpr ⟨hname, hfilter⟩⟩
    obtain ⟨filters, hbuilt⟩ := exists_forall₂ hfilters
    have hnames := hbuilt.imp fun _ _ hb => (build_eq_ok_iff.mp hb).1
    exact ⟨filters, hbuilt, (namedApart_iff_of_forall₂ hnames).mp hapart⟩

theorem wellFormed_of_buildAs : ∀ {filter : Filter} {name : String} {declaration : Declaration},
    declaration.buildAs (.ofClasses classes) name = .ok filter →
      declaration.WellFormed classes name := by
  -- by induction on the filter, whose nested filters are those of the nested declarations
  intro filter
  induction filter using Filter.ind with
  | step filter ih =>
    intro name declaration h
    cases built_of_buildAs h with
    | scalar kind made =>
      obtain ⟨rfl, hfits⟩ := (Registry.exists_make_iff kind _ _ _).mp ⟨_, made⟩
      exact .scalar hfits
    | array kind =>
      obtain rfl := Registry.kind_eq_array_iff.mp kind
      exact .array
    | arrayOf kind unnamed default build =>
      obtain rfl := Registry.kind_eq_array_iff.mp kind
      exact .arrayOf unnamed default (ih _ (List.mem_singleton_self _) build)
    | hash kind build names =>
      obtain rfl := Registry.kind_eq_hash_iff.mp kind
      have hnames := (namedApart_iff_of_forall₂ (build.imp fun _ _ hb => hb.name)).mpr names
      refine .hash hnames (fun field hf => ?_) fun field hf key hkey => ?_
      · obtain ⟨filter, _, hb⟩ := exists_mem_of_forall₂ build.flip hf
        exact hb.default
      · obtain ⟨filter, hm, hb⟩ := exists_mem_of_forall₂ build.flip hf
        obtain rfl : filter.name = key := Option.some.inj (hb.name.symm.trans hkey)
        exact ih filter hm hb.build

theorem WellFormed.exists_buildAs (h : declaration.WellFormed classes name) :
    ∃ filter, declaration.buildAs (.ofClasses classes) name = .ok filter := by
  have harray : (Registry.ofClasses classes).kind "array" = .ok .array :=
    Registry.kind_eq_array_iff.mpr rfl
  have hhash : (Registry.ofClasses classes).kind "hash" = .ok .hash :=
    Registry.kind_eq_hash_iff.mpr rfl
  induction h with
  | scalar fits =>
    obtain ⟨make, hkind⟩ := Registry.exists_kind_of_fits fits
    obtain ⟨rule, hrule⟩ := (Registry.exists_make_iff hkind _ _ []).mpr ⟨rfl, fits⟩
    exact ⟨_, buildAs_of_built (.scalar hkind hrule)⟩
  | array => exact ⟨_, buildAs_of_built (.array harray)⟩
  | arrayOf unnamed default _ ih =>
    obtain ⟨element, helement⟩ := ih
    exact ⟨_, buildAs_of_built (.arrayOf harray unnamed default helement)⟩
  | @hash _ _ _ fields names default _ ih =>
    obtain ⟨filters, hbuilt, hnodup⟩ := exists_builds_iff.mpr ⟨names, ih⟩
    have hfields : List.Forall₂ (FieldBuilt (.ofClasses classes)) fields filters := by
      refine ((List.forall₂_and_left fields filters).mpr ⟨default, hbuilt⟩).imp ?_
      rintro field filter ⟨hdefault, hb⟩
      obtain ⟨hname, hbuild⟩ := build_eq_ok_iff.mp hb
      exact ⟨hname, hdefault, hbuild⟩
    exact ⟨_, buildAs_of_built (.hash hhash hfields hnodup)⟩

/-- **A declaration can be built if and only if it is well-formed.** -/
theorem exists_buildAs_iff :
    (∃ filter, declaration.buildAs (.ofClasses classes) name = .ok filter) ↔
      declaration.WellFormed classes name :=
  ⟨fun ⟨_, h⟩ => wellFormed_of_buildAs h, fun h => h.exists_buildAs⟩

end Declaration

namespace FilterSet

open Declaration

/-- **Building accepts the well-formed declarations and no others.** -/
theorem exists_build_iff (classes : Classes) (declarations : List Declaration) :
    (∃ set, build (.ofClasses classes) declarations = .ok set) ↔
      NamedApart declarations ∧
        ∀ declaration ∈ declarations, ∀ name, declaration.name = some name →
          declaration.WellFormed classes name := by
  have hbuilds : (∃ set, build (.ofClasses classes) declarations = .ok set) ↔
      ∃ filters, List.Forall₂ (fun declaration filter =>
          declaration.build (.ofClasses classes) = .ok filter) declarations filters ∧
        (filters.map Filter.name).Nodup := by
    constructor
    · rintro ⟨set, hset⟩
      exact ⟨set.filters, build_eq_ok_iff.mp hset, set.nodup⟩
    · rintro ⟨filters, hbuilt, hnodup⟩
      exact ⟨⟨filters, hnodup⟩, build_eq_ok_iff.mpr hbuilt⟩
  rw [hbuilds, exists_builds_iff]
  exact and_congr_right fun _ => forall₄_congr fun _ _ _ _ => exists_buildAs_iff

end FilterSet

end Intake
