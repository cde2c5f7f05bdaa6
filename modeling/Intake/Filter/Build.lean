import Intake.Registry

/-!
# Building filters

A declaration is resolved against a registry.  The element filter of an array has no name of its own
and goes by the name of the array; the fields of a hash have names, all different.  No nested filter
has a default.
-/

namespace Intake

/-- Fails if a nested declaration has a default; `owner` is the name that the error tells. -/
def Declaration.refuseDefault (declaration : Declaration) (owner : String) :
    Except DefinitionError Unit :=
  match declaration.options.default with
  | none => .ok ()
  | some default => .error (.invalidDefault owner (default.resolve 0) none)

namespace Declaration

mutual

/-- Builds the filter of a declaration under a name, whatever its own name is. -/
def buildAs (registry : Registry) (name : String) : Declaration → Except DefinitionError Filter
  | ⟨slug, _, options, children⟩ =>
    let head : Head := ⟨name, slug, options⟩
    match registry.kind slug with
    | .error error => .error error
    | .ok .array => buildArray registry head children
    | .ok .hash => (buildFields registry name [] children).map (.hash head)
    | .ok (.scalar make) =>
      (make ⟨name, slug, options, children, registry.classes⟩).map (.scalar head)

def buildArray (registry : Registry) (head : Head) :
    List Declaration → Except DefinitionError Filter
  | [] => .ok (.array head)
  | [element] =>
    match element.name with
    | some name => .error (.namedElement head.name name)
    | none => do
      element.refuseDefault head.name
      return .arrayOf head (← element.buildAs registry head.name)
  | _ :: _ :: _ => .error (.manyElements head.name)

/-- Builds the fields of a hash filter after those with the names in `taken`. -/
def buildFields (registry : Registry) (owner : String) (taken : List String) :
    List Declaration → Except DefinitionError (List Filter)
  | [] => .ok []
  | field :: rest =>
    match field.name with
    | none => .error (.unnamedField owner)
    | some name => do
      field.refuseDefault (owner ++ "." ++ name)
      if taken.contains name then throw (.repeatedField owner name)
      let filter ← field.buildAs registry name
      return filter :: (← buildFields registry owner (name :: taken) rest)

end

/-- Builds the filter of a declaration under its own name. -/
def build (registry : Registry) (declaration : Declaration) : Except DefinitionError Filter :=
  match declaration.name with
  | some name => declaration.buildAs registry name
  | none => .error (.unnamedFilter declaration.slug)

end Declaration

end Intake
