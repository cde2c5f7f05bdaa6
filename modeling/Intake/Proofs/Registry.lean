import Intake.Proofs.ClassName
import Intake.Proofs.Entries
import Intake.Registry.Builtin

/-!
# Runs of registrations

Calls register kinds, under a slug or under the name of a type, and classes.  `Reflects` says what a
registry knows after any number of them, and `reflects_run` that it does, whether the first registry
was empty or the built-in one.  All of it rests on `kinds_run` and `classes_run`: the kinds after a
run are those before it with what the calls register put in, one after the other, and so are the
classes.
-/

namespace Intake.Registry

inductive Call where
  | register (slug : String) (constructor : Constructor)
  | registerKind (typeName : String) (constructor : Constructor)
  | registerClass (cls : Class)

def Call.kind? : Call → Option (String × Constructor)
  | register slug constructor => some (slug, constructor)
  | registerKind typeName constructor =>
    match Slug.ofTypeName typeName with
    | .ok slug => some (slug, constructor)
    | .error _ => none
  | registerClass _ => none

def Call.class? : Call → Option (String × Class)
  | register _ _ => none
  | registerKind _ _ => none
  | registerClass cls => some (cls.name, cls)

def perform (registry : Registry) : Call → Registry
  | .register slug constructor => registry.register slug constructor
  | .registerKind typeName constructor => registry.registerIfNamed typeName constructor
  | .registerClass cls => registry.registerClass cls

def run (registry : Registry) (calls : List Call) : Registry :=
  calls.foldl perform registry

def start (builtins : Bool) : Registry :=
  if builtins then builtin else {}

/-- A kind is built-in, and the name of its type gives the slug. -/
def IsBuiltin (slug : String) (constructor : Constructor) : Prop :=
  ∃ typeName, (typeName, constructor) ∈ builtinKinds ∧ Slug.ofTypeName typeName = .ok slug

open Entries (valuesUnder)

/-- What a registry knows after calls on an empty registry, or on the built-in one. -/
structure Reflects (builtins : Bool) (calls : List Call) (registry : Registry) : Prop where
  /-- A slug stands for the last kind registered under it, or else for the built-in one. -/
  kind : ∀ slug constructor, registry.kind slug = .ok constructor ↔
    (valuesUnder slug (calls.filterMap Call.kind?)).getLast? = some constructor ∨
      valuesUnder slug (calls.filterMap Call.kind?) = [] ∧ builtins = true ∧
        IsBuiltin slug constructor
  /-- Any other slug is unknown. -/
  unknownKind : ∀ slug error, registry.kind slug = .error error ↔
    error = .unknownKind slug ∧ valuesUnder slug (calls.filterMap Call.kind?) = [] ∧
      (builtins = true → ∀ constructor, ¬IsBuiltin slug constructor)
  ascending : registry.slugs.Pairwise (· < ·)
  slugs : ∀ slug, slug ∈ registry.slugs ↔ ∃ constructor, registry.kind slug = .ok constructor
  /-- A type name that has no slug is refused, and nothing changes. -/
  refused : ∀ typeName constructor, (∀ slug, Slug.ofTypeName typeName ≠ .ok slug) →
    registry.registerKind typeName constructor = .error (.malformedTypeName typeName) ∧
      registry.perform (.registerKind typeName constructor) = registry
  /-- The kinds stay as they are until a kind is registered. -/
  kinds : ∀ later : List Call, (∀ call ∈ later, call.kind? = none) →
    (registry.run later).kinds = registry.kinds
  /-- The classes stay as they are until a class is registered. -/
  classes : ∀ later : List Call, (∀ call ∈ later, call.class? = none) →
    (registry.run later).classes = registry.classes
  /-- What is no class name is refused, be it registered or not. -/
  malformedClassName : ∀ name, registry.findClass name = .error (.malformedClassName name) ↔
    ¬ClassName.Spelled name
  /-- A class name stands for the last class registered under it. -/
  cls : ∀ name cls, registry.findClass name = .ok cls ↔
    ClassName.Spelled name ∧
      (valuesUnder name (calls.filterMap Call.class?)).getLast? = some cls
  /-- Any other class name is unknown. -/
  unknownClass : ∀ name, registry.findClass name = .error (.unknownClass name) ↔
    ClassName.Spelled name ∧ valuesUnder name (calls.filterMap Call.class?) = []

variable {registry : Registry} {calls : List Call}

/-! ### One call -/

theorem registerIfNamed_of_ok {typeName slug : String} (h : Slug.ofTypeName typeName = .ok slug)
    (constructor : Constructor) :
    registry.registerIfNamed typeName constructor = registry.register slug constructor := by
  rw [registerIfNamed, registerKind, h]
  rfl

theorem registerIfNamed_of_error {typeName : String} {error : DefinitionError}
    (h : Slug.ofTypeName typeName = .error error) (constructor : Constructor) :
    registry.registerIfNamed typeName constructor = registry := by
  rw [registerIfNamed, registerKind, h]
  rfl

theorem kinds_perform (registry : Registry) (call : Call) :
    (registry.perform call).kinds = registry.kinds.insertAll call.kind?.toList := by
  cases call with
  | register slug constructor => rfl
  | registerKind typeName constructor =>
    rw [perform, Call.kind?]
    cases h : Slug.ofTypeName typeName with
    | ok slug =>
      rw [registerIfNamed_of_ok h]
      rfl
    | error error =>
      rw [registerIfNamed_of_error h]
      rfl
  | registerClass cls => rfl

theorem classes_perform (registry : Registry) (call : Call) :
    (registry.perform call).classes = registry.classes.insertAll call.class?.toList := by
  cases call with
  | register slug constructor => rfl
  | registerKind typeName constructor =>
    rw [perform]
    cases h : Slug.ofTypeName typeName with
    | ok slug =>
      rw [registerIfNamed_of_ok h]
      rfl
    | error error =>
      rw [registerIfNamed_of_error h]
      rfl
  | registerClass cls => rfl

theorem registerKind_of_no_slug {typeName : String}
    (h : ∀ slug, Slug.ofTypeName typeName ≠ .ok slug) (constructor : Constructor) :
    registry.registerKind typeName constructor = .error (.malformedTypeName typeName) ∧
      registry.perform (.registerKind typeName constructor) = registry := by
  have herror : Slug.ofTypeName typeName = .error (.malformedTypeName typeName) := by
    rw [Slug.ofTypeName] at h ⊢
    cases hbase : Slug.base? typeName.toList with
    | some base =>
      rw [hbase] at h
      exact absurd rfl (h _)
    | none => rfl
  refine ⟨?_, registerIfNamed_of_error herror constructor⟩
  rw [registerKind, herror]
  rfl

/-! ### Many calls -/

/-- A part of the registry into which a call inserts what it registers. -/
theorem view_run {α : Type} (view : Registry → Entries α) (put? : Call → Option (String × α))
    (hview : ∀ registry call, view (perform registry call) =
      (view registry).insertAll (put? call).toList) (calls : List Call) :
    ∀ registry, view (run registry calls) = (view registry).insertAll (calls.filterMap put?) := by
  induction calls with
  | nil => intro registry; rfl
  | cons call calls ih =>
    intro registry
    have hrun : run registry (call :: calls) = run (perform registry call) calls := rfl
    rw [hrun, ih, hview]
    cases hput : put? call with
    | none =>
      rw [List.filterMap_cons_none hput]
      rfl
    | some pair =>
      rw [List.filterMap_cons_some hput]
      rfl

/-- **The kinds after a run** are those before it and what the calls register, one by one. -/
theorem kinds_run (registry : Registry) (calls : List Call) :
    (run registry calls).kinds = registry.kinds.insertAll (calls.filterMap Call.kind?) :=
  view_run Registry.kinds Call.kind? kinds_perform calls registry

/-- **The classes after a run** are those before it and what the calls register, one by one. -/
theorem classes_run (registry : Registry) (calls : List Call) :
    (run registry calls).classes = registry.classes.insertAll (calls.filterMap Call.class?) :=
  view_run Registry.classes Call.class? classes_perform calls registry

/-! ### The built-in registry -/

theorem builtin_eq_run : builtin =
    run {} (builtinKinds.map fun (typeName, constructor) => .registerKind typeName constructor) := by
  rw [run, List.foldl_map]
  rfl

theorem ascending_kinds_start (builtins : Bool) : (start builtins).kinds.Ascending := by
  have hempty : Entries.Ascending ([] : Entries Constructor) := List.Pairwise.nil
  cases builtins with
  | false => exact hempty
  | true =>
    rw [start, if_pos rfl, builtin_eq_run, kinds_run]
    exact Entries.ascending_insertAll _ hempty

theorem classes_start (builtins : Bool) : (start builtins).classes = [] := by
  cases builtins with
  | false => rfl
  | true => rfl

/-- The built-in kinds under their slugs are the built-in kinds with the slugs of their types. -/
theorem map_builtinKinds :
    builtinKinds.map (fun (typeName, constructor) => (Slug.ofTypeName typeName, constructor)) =
      builtin.kinds.map (fun (slug, constructor) => (.ok slug, constructor)) := by
  rfl

theorem get?_start_iff {builtins : Bool} {slug : String} {constructor : Constructor} :
    (start builtins).kinds.get? slug = some constructor ↔
      builtins = true ∧ IsBuiltin slug constructor := by
  cases builtins with
  | false => simp [start, Entries.get?]
  | true =>
    have hmem : (slug, constructor) ∈ builtin.kinds ↔ IsBuiltin slug constructor := by
      have hleft : (slug, constructor) ∈ builtin.kinds ↔ (.ok slug, constructor) ∈
          builtin.kinds.map (fun (slug, constructor) =>
            ((.ok slug : Except DefinitionError String), constructor)) := by
        simp
      rw [hleft, ← map_builtinKinds, List.mem_map, IsBuiltin]
      simp
    rw [and_iff_right rfl, ← hmem]
    exact ⟨Entries.mem_of_get?, Entries.get?_of_mem (ascending_kinds_start true).nodup⟩

theorem get?_start_eq_none_iff {builtins : Bool} {slug : String} :
    (start builtins).kinds.get? slug = none ↔
      (builtins = true → ∀ constructor, ¬IsBuiltin slug constructor) := by
  constructor
  · intro h hbuiltins constructor hbuiltin
    rw [get?_start_iff.mpr ⟨hbuiltins, hbuiltin⟩] at h
    exact absurd h (by simp)
  · intro h
    cases hget : (start builtins).kinds.get? slug with
    | none => rfl
    | some constructor =>
      obtain ⟨hbuiltins, hbuiltin⟩ := get?_start_iff.mp hget
      exact absurd hbuiltin (h hbuiltins constructor)

/-! ### Runs from the start -/

theorem kind_eq_ok_iff_get? {slug : String} {constructor : Constructor} :
    registry.kind slug = .ok constructor ↔ registry.kinds.get? slug = some constructor := by
  rw [kind]
  cases registry.kinds.get? slug with
  | some other => simp
  | none => simp

theorem kind_eq_error_iff {slug : String} {error : DefinitionError} :
    registry.kind slug = .error error ↔
      error = .unknownKind slug ∧ registry.kinds.get? slug = none := by
  rw [kind]
  cases registry.kinds.get? slug with
  | some other => simp
  | none => simp [eq_comm]

theorem getLast?_or_eq_some_iff {α : Type} {values : List α} {other : Option α} {value : α} :
    values.getLast?.or other = some value ↔
      values.getLast? = some value ∨ values = [] ∧ other = some value := by
  rw [Option.or_eq_some_iff, List.getLast?_eq_none_iff]

theorem findClass_eq_ok_iff {name : String} {cls : Class} :
    registry.findClass name = .ok cls ↔
      ClassName.Spelled name ∧ registry.classes.get? name = some cls := by
  rw [findClass, Classes.find, ← ClassName.isClassName_iff]
  cases ClassName.isClassName name with
  | false => simp
  | true =>
    cases registry.classes.get? name with
    | some other => simp
    | none => simp

theorem findClass_eq_error_iff {name : String} {error : DefinitionError} :
    registry.findClass name = .error error ↔
      ¬ClassName.Spelled name ∧ error = .malformedClassName name ∨
        ClassName.Spelled name ∧ registry.classes.get? name = none ∧
          error = .unknownClass name := by
  rw [findClass, Classes.find, ← ClassName.isClassName_iff]
  cases ClassName.isClassName name with
  | false => simp [eq_comm]
  | true =>
    cases registry.classes.get? name with
    | some other => simp
    | none => simp [eq_comm]

/-- **A registry reflects the calls that made it.** -/
theorem reflects_run (builtins : Bool) (calls : List Call) :
    Reflects builtins calls ((start builtins).run calls) := by
  have hkinds : ∀ slug, ((start builtins).run calls).kinds.get? slug =
      (valuesUnder slug (calls.filterMap Call.kind?)).getLast?.or
        ((start builtins).kinds.get? slug) := by
    intro slug
    rw [kinds_run, Entries.get?_insertAll_eq]
  have hclasses : ∀ name, ((start builtins).run calls).classes.get? name =
      (valuesUnder name (calls.filterMap Call.class?)).getLast? := by
    intro name
    rw [classes_run, Entries.get?_insertAll_eq, classes_start, Entries.get?, Option.or_none]
  refine ⟨?_, ?_, ?_, ?_, ?_, ?_, ?_, ?_, ?_, ?_⟩
  · intro slug constructor
    rw [kind_eq_ok_iff_get?, hkinds, getLast?_or_eq_some_iff, get?_start_iff]
  · intro slug error
    rw [kind_eq_error_iff, hkinds, Option.or_eq_none_iff, List.getLast?_eq_none_iff,
      get?_start_eq_none_iff]
  · rw [slugs, kinds_run]
    exact Entries.ascending_insertAll _ (ascending_kinds_start builtins)
  · intro slug
    simp only [kind_eq_ok_iff_get?]
    rw [slugs, ← Entries.contains_iff, Entries.contains, Option.isSome_iff_exists]
  · intro typeName constructor h
    exact registerKind_of_no_slug h constructor
  · intro later h
    rw [kinds_run _ later, List.filterMap_eq_nil_iff.mpr h]
    rfl
  · intro later h
    rw [classes_run _ later, List.filterMap_eq_nil_iff.mpr h]
    rfl
  · intro name
    simp [findClass_eq_error_iff]
  · intro name cls
    rw [findClass_eq_ok_iff, hclasses]
  · intro name
    simp [findClass_eq_error_iff, hclasses]

end Intake.Registry
