import Intake.Text.Case
import Intake.Text.Split

/-!
# Class names

A class name is one or more constants with double colons between them; a constant starts with a
capital letter and goes on with letters, digits and underscores.  A filter without a class of its
own takes the class that its name spells when it is written like one: `admin/user_account` gives
`Admin::UserAccount`.
-/

namespace Intake.ClassName

def isConstant : List Char → Bool
  | [] => false
  | c :: rest => c.isUpper && rest.all fun d => d.isAlphanum || d = '_'

def isClassName (name : String) : Bool :=
  (Text.splitScope name.toList).all isConstant

def capitalize : List Char → List Char
  | [] => []
  | c :: rest => Text.upperChar c ++ rest

/-- Words apart by underscores, written as one constant. -/
def camelizeSegment (segment : List Char) : List Char :=
  (Text.splitAt '_' segment).flatMap capitalize

/-- The class name that a filter name spells. -/
def camelize (name : String) : String :=
  String.ofList (Text.joinScope ((Text.splitAt '/' name.toList).map camelizeSegment))

end Intake.ClassName
