import Intake.Proofs.ClassName.Camelize
import Intake.Proofs.Filter.WellFormed

/-!
# Filters refused for the class that their names spell

An object, record or interface filter without a class of its own takes the class that its name
spells.  It fails for the name just where the lookup of this class does: where some segment of the
name does not start with a letter, `camelize_exact`.  No class is looked up for an interface that is
given by methods, nor for a filter that has nested filters and is refused for them.
-/

namespace Intake.ClassName

/-- An object, record or interface filter is given no class. -/
inductive WithoutClass : Declaration → Prop where
  | object {own : Option String} {options : Options} {children : List Declaration}
      (h : options.className = none) : WithoutClass ⟨"object", own, options, children⟩
  | record {own : Option String} {options : Options} {children : List Declaration}
      (h : options.className = none) : WithoutClass ⟨"record", own, options, children⟩
  | interface {own : Option String} {options : Options} {children : List Declaration}
      (h : options.ancestor = none) : WithoutClass ⟨"interface", own, options, children⟩

/-- A class is looked up for a filter: it has no nested filters, and is no interface that is given
by methods. -/
def LooksUpClass (declaration : Declaration) : Prop :=
  declaration.children = [] ∧ (declaration.slug = "interface" → declaration.options.methods = [])

/-- Something fails for a name that it was given. -/
def FailsForName {α : Type} (result : Except DefinitionError α) (error : DefinitionError) : Prop :=
  result = .error error ∧ error.category = .name

variable {α β : Type} {result : Except DefinitionError α} {classes : Classes}
  {definition : Definition} {error : DefinitionError} {name : String}

/-! ### Steps that fail for a name -/

theorem not_failsForName_ok (a : α) : ¬FailsForName (.ok a) error :=
  fun h => absurd h.1 (by simp)

theorem failsForName_error_iff {other : DefinitionError} :
    FailsForName (.error other : Except DefinitionError α) error ↔
      error = other ∧ other.category = .name := by
  rw [FailsForName, Except.error.injEq, eq_comm]
  exact and_congr_right fun h => by rw [h]

theorem not_failsForName_error {other : DefinitionError} (h : other.category ≠ .name) :
    ¬FailsForName (.error other : Except DefinitionError α) error :=
  fun hfails => h (failsForName_error_iff.mp hfails).2

theorem failsForName_map_iff {f : α → β} :
    FailsForName (result.map f) error ↔ FailsForName result error := by
  cases result with
  | ok a => exact iff_of_false (not_failsForName_ok _) (not_failsForName_ok _)
  | error other => simp [FailsForName, Except.map]

theorem failsForName_bind_iff {next : α → Except DefinitionError β}
    (h : ∀ a, ¬FailsForName (next a) error) :
    FailsForName (result >>= next) error ↔ FailsForName result error := by
  cases result with
  | ok a => exact iff_of_false (h a) (not_failsForName_ok _)
  | error other => simp [FailsForName, bind, Except.bind]

/-- Classes are looked up in vain for the name only where it is no class name. -/
theorem failsForName_find_iff (classes : Classes) (name : String) :
    FailsForName (classes.find name) error ↔
      error = .malformedClassName name ∧ ¬isClassName name = true := by
  rw [Classes.find]
  split
  · next hname =>
    refine iff_of_false ?_ fun h => h.2 hname
    split
    · exact not_failsForName_ok _
    · exact not_failsForName_error (by simp [DefinitionError.category])
  · next hname =>
    exact failsForName_error_iff.trans (and_congr_right fun _ => iff_of_true rfl hname)

theorem not_failsForName_method? {cls : Class} {method : String} :
    ¬FailsForName (cls.method? method) error := by
  rw [Class.method?]
  split
  · exact not_failsForName_ok _
  · exact not_failsForName_error (by simp [DefinitionError.category])

theorem not_failsForName_resolve {cls : Class} {converter : Converter} :
    ¬FailsForName (converter.resolve cls) error := by
  cases converter with
  | method name => exact not_failsForName_method?
  | function convert => exact not_failsForName_ok convert

/-! ### Kinds that look at classes -/

theorem failsForName_refuseNested_bind_iff {next : Unit → Except DefinitionError β} :
    FailsForName (definition.refuseNested >>= next) error ↔
      definition.children = [] ∧ FailsForName (next ()) error := by
  rw [Definition.refuseNested]
  cases definition.children with
  | nil => exact (and_iff_right rfl).symm
  | cons child rest =>
    exact iff_of_false (not_failsForName_error (by simp [DefinitionError.category])) (by simp)

theorem failsForName_makeObject_iff : FailsForName (Scalar.makeObject definition) error ↔
    definition.children = [] ∧
      FailsForName (definition.resolveClass definition.options.className) error := by
  rw [Scalar.makeObject, failsForName_refuseNested_bind_iff]
  refine and_congr_right fun _ => failsForName_bind_iff fun cls => ?_
  cases definition.options.converter with
  | none => exact not_failsForName_ok _
  | some converter =>
    exact fun hfails => not_failsForName_resolve
      ((failsForName_bind_iff fun _ => not_failsForName_ok _).mp hfails)

theorem failsForName_makeRecord_iff : FailsForName (Scalar.makeRecord definition) error ↔
    definition.children = [] ∧
      FailsForName (definition.resolveClass definition.options.className) error := by
  rw [Scalar.makeRecord, failsForName_refuseNested_bind_iff]
  refine and_congr_right fun _ => failsForName_bind_iff fun cls hfails => ?_
  exact not_failsForName_method?
    ((failsForName_bind_iff fun _ => not_failsForName_ok _).mp hfails)

theorem failsForName_makeInterface_iff : FailsForName (Scalar.makeInterface definition) error ↔
    definition.children = [] ∧ definition.options.methods = [] ∧
      FailsForName (definition.resolveClass definition.options.ancestor) error := by
  rw [Scalar.makeInterface, failsForName_refuseNested_bind_iff]
  refine and_congr_right fun _ => ?_
  dsimp only
  cases definition.options.methods with
  | nil =>
    rw [List.isEmpty_nil, if_pos rfl, and_iff_right rfl]
    exact failsForName_bind_iff fun _ => not_failsForName_ok _
  | cons method rest =>
    refine iff_of_false ?_ (by simp)
    cases definition.options.ancestor with
    | none => exact not_failsForName_ok _
    | some ancestor => exact not_failsForName_error (by simp [DefinitionError.category])

theorem failsForName_buildAs_scalar_iff {slug : String} {own : Option String} {options : Options}
    {children : List Declaration} {make : Definition → Except DefinitionError Scalar}
    (h : (Registry.ofClasses classes).kind slug = .ok (.scalar make)) :
    FailsForName (Declaration.buildAs (.ofClasses classes) name ⟨slug, own, options, children⟩)
        error ↔
      FailsForName (make ⟨name, slug, options, children, classes⟩) error := by
  rw [Declaration.buildAs, h]
  exact failsForName_map_iff

/-- A filter without a class fails for its name where the class that its name spells is looked up,
and is none. -/
theorem WithoutClass.failsForName_buildAs_iff {declaration : Declaration}
    (h : WithoutClass declaration) :
    FailsForName (declaration.buildAs (.ofClasses classes) name) error ↔
      LooksUpClass declaration ∧ error = .malformedClassName (camelize name) ∧
        ¬isClassName (camelize name) = true := by
  have hkind : ∀ slug make, (slug, Constructor.scalar make) ∈ Registry.builtin.kinds →
      (Registry.ofClasses classes).kind slug = .ok (.scalar make) :=
    fun _ _ => Registry.kind_eq_ok_iff.mpr
  rw [Registry.kinds_builtin] at hkind
  rw [← failsForName_find_iff classes, LooksUpClass]
  cases h with
  | object h =>
    rw [failsForName_buildAs_scalar_iff (hkind "object" Scalar.makeObject (by simp)),
      failsForName_makeObject_iff, Definition.resolveClass, h]
    simp
  | record h =>
    rw [failsForName_buildAs_scalar_iff (hkind "record" Scalar.makeRecord (by simp)),
      failsForName_makeRecord_iff, Definition.resolveClass, h]
    simp
  | interface h =>
    rw [failsForName_buildAs_scalar_iff (hkind "interface" Scalar.makeInterface (by simp)),
      failsForName_makeInterface_iff, Definition.resolveClass, h]
    simp [and_assoc]

/-- **The class names that filter names spell** are well formed where all segments start with a
letter, and have a part for each segment then.  In all other cases, and no more, the filters without
a class fail for the name, if a class is looked up for them at all. -/
theorem camelize_exact (h : Lettered name) :
    (isClassName (camelize name) = true ↔
      ∀ segment ∈ name.toList.splitOn '/', StartsWithLetter segment) ∧
    (isClassName (camelize name) = true →
      List.Forall₂ Renders (name.toList.splitOn '/') (Text.splitScope (camelize name).toList)) ∧
    ∀ (classes : Classes) (declaration : Declaration) (error : DefinitionError),
      WithoutClass declaration →
        (FailsForName (declaration.buildAs (.ofClasses classes) name) error ↔
          LooksUpClass declaration ∧ error = .malformedClassName (camelize name) ∧
            ¬∀ segment ∈ name.toList.splitOn '/', StartsWithLetter segment) := by
  refine ⟨isClassName_camelize_iff h, renders_camelize h, fun classes declaration error hw => ?_⟩
  rw [hw.failsForName_buildAs_iff, isClassName_camelize_iff h]

/-- The accounts of administrators, and a segment that starts with a digit. -/
theorem camelize_exact_account :
    (Lettered "admin/_user_account2" ∧ camelize "admin/_user_account2" = "Admin::UserAccount2" ∧
      (∀ segment ∈ ["admin".toList, "_user_account2".toList], StartsWithLetter segment) ∧
      List.Forall₂ Renders ["admin".toList, "_user_account2".toList]
        ["Admin".toList, "UserAccount2".toList]) ∧
    (Lettered "admin/2d" ∧ WithoutClass ⟨"object", some "admin/2d", {}, []⟩ ∧
      FailsForName
        (Declaration.buildAs (.ofClasses []) "admin/2d" ⟨"object", some "admin/2d", {}, []⟩)
        (.malformedClassName "Admin::2d")) := by
  have haccount : Lettered "admin/_user_account2" := by decide
  have hdigit : Lettered "admin/2d" := by decide
  have hobject : WithoutClass ⟨"object", some "admin/2d", {}, []⟩ := .object rfl
  obtain ⟨hiff, hparts, -⟩ := camelize_exact haccount
  have hclass : isClassName (camelize "admin/_user_account2") = true := by decide
  have hfails := ((camelize_exact hdigit).2.2 [] _ (.malformedClassName "Admin::2d") hobject).mpr
  refine ⟨⟨haccount, by decide, hiff.mp hclass, hparts hclass⟩, hdigit, hobject,
    hfails ⟨⟨rfl, fun _ => rfl⟩, rfl, by decide⟩⟩

/-- A filter that is given by methods, or has nested filters, is not refused for its name. -/
theorem not_refused_for_unspelled : Lettered "2d" ∧
    (¬∀ segment ∈ ("2d".toList).splitOn '/', StartsWithLetter segment) ∧
    (∃ filter, Declaration.buildAs (.ofClasses []) "2d"
      ⟨"interface", some "2d", { methods := ["draw"] }, []⟩ = .ok filter) ∧
    Declaration.buildAs (.ofClasses []) "2d"
      ⟨"object", some "2d", {}, [⟨"integer", some "x", {}, []⟩]⟩ =
        .error (.nestedRefused "2d" "object") := by
  exact ⟨by decide, by decide, ⟨_, rfl⟩, rfl⟩

end Intake.ClassName
