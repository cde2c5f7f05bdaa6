import Intake.Path
import Intake.Value.Text

/-!
# Cast errors

Why a filter rejects a value.
-/

namespace Intake

/-- Why a filter rejects a value; `name` is the name of the filter. -/
inductive CastError where
  /-- There is no value. -/
  | missing (name : String)
  /-- The value cannot be cast. -/
  | invalid (name : String) (value : Value)
  /-- The value is a container of the right type, but something at the path in it is rejected; the
  value is the container with what could be cast of it. -/
  | nested (name : String) (path : Path) (value : Value)

namespace CastError

def name : CastError → String
  | missing name => name
  | invalid name _ => name
  | nested name _ _ => name

def message : CastError → String
  | missing name => name ++ ": missing value"
  | invalid name value => name ++ ": invalid value " ++ value.text
  | nested name path value =>
    name ++ ": invalid nested value at " ++ path.text ++ ": " ++ value.text

end CastError

end Intake
