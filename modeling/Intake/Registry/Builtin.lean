import Intake.Registry

/-!
# The built-in kinds

Arrays and hashes, eight kinds of plain values, files, and three kinds that look at classes:
objects, records and interfaces.
-/

namespace Intake

/-- The function of a converter, looked up in the class if it is a method. -/
def Converter.resolve (cls : Class) : Converter → Except DefinitionError Conversion
  | .method name => cls.method? name
  | .function convert => .ok convert

namespace Scalar

/-- A kind that needs nothing but that there are no nested declarations. -/
def plain (rule : Definition → Scalar) (definition : Definition) :
    Except DefinitionError Scalar := do
  definition.refuseNested
  return rule definition

def defaultDigits : Nat := 16

def makeDecimal (definition : Definition) : Except DefinitionError Scalar := do
  definition.refuseNested
  let digits := definition.options.digits.getD defaultDigits
  if digits = 0 then throw (.noDigits definition.name)
  return .decimal digits

def makeObject (definition : Definition) : Except DefinitionError Scalar := do
  definition.refuseNested
  let cls ← definition.resolveClass definition.options.className
  match definition.options.converter with
  | none => return .object cls.name none
  | some converter => return .object cls.name (some (← Converter.resolve cls converter))

def defaultFinder : String := "find"

def makeRecord (definition : Definition) : Except DefinitionError Scalar := do
  definition.refuseNested
  let cls ← definition.resolveClass definition.options.className
  return .record cls.name (← cls.method? (definition.options.finder.getD defaultFinder))

def makeInterface (definition : Definition) : Except DefinitionError Scalar := do
  definition.refuseNested
  let options := definition.options
  if options.methods.isEmpty then
    let cls ← definition.resolveClass options.ancestor
    return .interface (.ancestor cls.name)
  else if options.ancestor.isSome then
    throw (.ancestorAndMethods definition.name)
  else
    return .interface (.methods options.methods)

end Scalar

namespace Registry

/-- The built-in kinds with the names of their types. -/
def builtinKinds : List (String × Constructor) :=
  [("ArrayFilter", .array),
    ("BooleanFilter", .scalar (Scalar.plain fun _ => .boolean)),
    ("DateFilter", .scalar (Scalar.plain fun definition => .date definition.options.layout)),
    ("DateTimeFilter",
      .scalar (Scalar.plain fun definition => .dateTime definition.options.layout)),
    ("DecimalFilter", .scalar Scalar.makeDecimal),
    ("FileFilter", .scalar (Scalar.plain fun _ => .file)),
    ("FloatFilter", .scalar (Scalar.plain fun _ => .float)),
    ("HashFilter", .hash),
    ("IntegerFilter", .scalar (Scalar.plain fun _ => .integer)),
    ("InterfaceFilter", .scalar Scalar.makeInterface),
    ("ObjectFilter", .scalar Scalar.makeObject),
    ("RecordFilter", .scalar Scalar.makeRecord),
    ("StringFilter", .scalar (Scalar.plain fun definition => .string definition.options.strip)),
    ("SymbolFilter", .scalar (Scalar.plain fun _ => .symbol)),
    ("TimeFilter", .scalar (Scalar.plain fun definition => .time definition.options.layout))]

/-- Registers a kind whose type name may have no slug; then nothing changes. -/
def registerIfNamed (registry : Registry) (typeName : String) (constructor : Constructor) :
    Registry :=
  match registry.registerKind typeName constructor with
  | .ok (_, registry) => registry
  | .error _ => registry

/-- The registry with the built-in kinds and no classes. -/
def builtin : Registry :=
  builtinKinds.foldl (fun registry (typeName, kind) => registry.registerIfNamed typeName kind) {}

end Registry

end Intake
