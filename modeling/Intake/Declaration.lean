import Intake.Options

/-!
# Declarations

A declaration says which filter is wanted, by the slug of its kind, its name, its options and its
nested declarations: the element of an array, the fields of a hash.
-/

namespace Intake

/-- A filter as it is declared.  The element of an array has no name. -/
structure Declaration where
  slug : String
  name : Option String := none
  options : Options := {}
  children : List Declaration := []

end Intake
