import Intake.Filter.Scalar

/-!
# Filters

A filter is a named rule that casts raw values.  Scalar filters cast single values, array filters
every element by one filter, hash filters every field by one of its own.  An array filter without an
element filter and a hash filter without fields take any array and any hash as they are.
-/

namespace Intake

/-- What all filters have: a name, the slug of their kind and their options. -/
structure Head where
  name : String
  slug : String
  options : Options

inductive Filter where
  | scalar (head : Head) (rule : Scalar)
  /-- Takes any array. -/
  | array (head : Head)
  /-- Casts every element of an array. -/
  | arrayOf (head : Head) (element : Filter)
  /-- Casts every field of a hash. -/
  | hash (head : Head) (fields : List Filter)

namespace Filter

/-- What a filter has in common with all others. -/
def head : Filter → Head
  | scalar head _ => head
  | array head => head
  | arrayOf head _ => head
  | hash head _ => head

def name (filter : Filter) : String :=
  filter.head.name

def slug (filter : Filter) : String :=
  filter.head.slug

def options (filter : Filter) : Options :=
  filter.head.options

/-- The nested filters, in the order of their declaration. -/
def children : Filter → List Filter
  | scalar _ _ => []
  | array _ => []
  | arrayOf _ element => [element]
  | hash _ fields => fields

/-- Whether a filter has a default. -/
def isOptional (filter : Filter) : Bool :=
  filter.options.isOptional

/-- Whether a filter casts nil to nil. -/
def acceptsNil (filter : Filter) : Bool :=
  filter.options.acceptsNil

end Filter

end Intake
