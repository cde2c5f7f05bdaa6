import Intake.CastError

/-!
# Definition errors

What can be wrong with a declaration.  Such an error is one of the program and not of its input: it
is raised when filters are built or a default is resolved, and never goes into a report.
-/

namespace Intake

/-- What is wrong with a declaration. -/
inductive DefinitionError where
  /-- A kind without nested filters has some. -/
  | nestedRefused (name slug : String)
  /-- An array has several nested filters. -/
  | manyElements (name : String)
  /-- The element filter of an array has a name. -/
  | namedElement (name element : String)
  /-- Two fields of a hash have one name. -/
  | repeatedField (name field : String)
  /-- Two filters have one name. -/
  | repeatedFilter (name : String)
  /-- A decimal is to have no digits. -/
  | noDigits (name : String)
  /-- An interface is given by an ancestor and by methods. -/
  | ancestorAndMethods (name : String)
  /-- No slug can be derived from a type name. -/
  | malformedTypeName (typeName : String)
  /-- A constructor of the host refuses for a reason of its own. -/
  | refused (reason : String)
  /-- A filter that needs a name has none. -/
  | unnamedFilter (slug : String)
  /-- A field of a hash has no name. -/
  | unnamedField (name : String)
  /-- A class name is not built like one. -/
  | malformedClassName (name : String)
  /-- No class has the name. -/
  | unknownClass (name : String)
  /-- A class lacks the method that is to find or convert. -/
  | unknownMethod (className method : String)
  /-- A default is not allowed here, or is rejected by its own filter. -/
  | invalidDefault (name : String) (value : Value) (source : Option CastError)
  /-- A filter has no default. -/
  | noDefault (name : String)
  /-- No kind has the slug. -/
  | unknownKind (slug : String)

inductive DefinitionError.Category where
  | filter
  | name
  | className
  | converter
  | default
  | noDefault
  | missingFilter
  deriving DecidableEq

namespace DefinitionError

def category : DefinitionError → Category
  | nestedRefused .. | manyElements .. | namedElement .. | repeatedField .. | repeatedFilter ..
  | noDigits .. | ancestorAndMethods .. | malformedTypeName .. | refused .. => .filter
  | unnamedFilter .. | unnamedField .. | malformedClassName .. => .name
  | unknownClass .. => .className
  | unknownMethod .. => .converter
  | invalidDefault .. => .default
  | noDefault .. => .noDefault
  | unknownKind .. => .missingFilter

def detail : DefinitionError → String
  | nestedRefused name slug => name ++ ": " ++ slug ++ " filters cannot have nested filters"
  | manyElements name => name ++ ": arrays accept at most one nested filter"
  | namedElement name element =>
    name ++ ": array element filters cannot be named (" ++ element ++ ")"
  | repeatedField name field => name ++ ": duplicate field " ++ field
  | repeatedFilter name => "duplicate filter " ++ name
  | noDigits name => name ++ ": digits must be positive"
  | ancestorAndMethods name => name ++ ": from and methods cannot both be given"
  | malformedTypeName typeName => typeName
  | refused reason => reason
  | unnamedFilter slug => "unnamed " ++ slug ++ " filter"
  | unnamedField name => name ++ ": hash fields must be named"
  | malformedClassName name => name
  | unknownClass name => name
  | unknownMethod className method => className ++ "." ++ method
  | invalidDefault name value _ => name ++ ": " ++ value.text
  | noDefault name => name
  | unknownKind slug => slug

def message (error : DefinitionError) : String :=
  match error.category with
  | .filter => "invalid filter: " ++ error.detail
  | .name => "invalid name: " ++ error.detail
  | .className => "invalid class: " ++ error.detail
  | .converter => "invalid converter: " ++ error.detail
  | .default => "invalid default for " ++ error.detail
  | .noDefault => "no default for " ++ error.detail
  | .missingFilter => "missing filter: " ++ error.detail

end DefinitionError

end Intake
