import Intake.ClassName
import Intake.Declaration
import Intake.Filter
import Intake.Slug

/-!
# Registries

A registry knows the kinds of filters by their slugs and the classes of the host by their names.
Kinds and classes may be registered again; the last registration counts.
-/

namespace Intake

/-- A class of the host with the methods that find and convert. -/
structure Class where
  name : String
  methods : Entries Conversion := []

def Class.method? (cls : Class) (name : String) : Except DefinitionError Conversion :=
  match cls.methods.get? name with
  | some method => .ok method
  | none => .error (.unknownMethod cls.name name)

abbrev Classes := Entries Class

def Classes.find (classes : Classes) (name : String) : Except DefinitionError Class :=
  if ClassName.isClassName name then
    match classes.get? name with
    | some cls => .ok cls
    | none => .error (.unknownClass name)
  else
    .error (.malformedClassName name)

/-- What is known of the filter that a kind is asked for. -/
structure Definition where
  name : String
  slug : String
  options : Options
  children : List Declaration
  classes : Classes

namespace Definition

def refuseNested (definition : Definition) : Except DefinitionError Unit :=
  if definition.children.isEmpty then .ok ()
  else .error (.nestedRefused definition.name definition.slug)

/-- The class of the given name, or of the one that the name of the filter spells. -/
def resolveClass (definition : Definition) (explicit : Option String) :
    Except DefinitionError Class :=
  definition.classes.find (explicit.getD (ClassName.camelize definition.name))

end Definition

/-- How filters of a kind are made. -/
inductive Constructor where
  | array
  | hash
  | scalar (make : Definition → Except DefinitionError Scalar)

/-- The kinds and the classes that declarations may refer to. -/
structure Registry where
  kinds : Entries Constructor := []
  classes : Classes := []

namespace Registry

def register (registry : Registry) (slug : String) (constructor : Constructor) : Registry :=
  { registry with kinds := registry.kinds.insert slug constructor }

/-- Registers a kind under the slug of its type name, if it has one. -/
def registerKind (registry : Registry) (typeName : String) (constructor : Constructor) :
    Except DefinitionError (String × Registry) :=
  (Slug.ofTypeName typeName).map fun slug => (slug, registry.register slug constructor)

def registerClass (registry : Registry) (cls : Class) : Registry :=
  { registry with classes := registry.classes.insert cls.name cls }

def kind (registry : Registry) (slug : String) : Except DefinitionError Constructor :=
  match registry.kinds.get? slug with
  | some constructor => .ok constructor
  | none => .error (.unknownKind slug)

def contains (registry : Registry) (slug : String) : Bool :=
  registry.kinds.contains slug

def slugs (registry : Registry) : List String :=
  registry.kinds.keys

def findClass (registry : Registry) (name : String) : Except DefinitionError Class :=
  registry.classes.find name

end Registry

end Intake
