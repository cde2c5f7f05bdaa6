/-!
# TOML documents

The values of a TOML document.  A date or time is kept as its text.
-/

namespace Intake

inductive Toml where
  | string (s : String)
  | integer (n : Int)
  | float (x : Float)
  | boolean (b : Bool)
  | dateTime (text : String)
  | array (items : List Toml)
  | table (entries : List (String × Toml))

end Intake
