import Intake.Binary64.Shortest
import Intake.Calendar.Text
import Intake.Text.Quoted
import Intake.Value

/-!
# The texts of values

How a value is shown in an error.  Strings and the keys of hashes are quoted.
-/

namespace Intake.Value

def commaSeparated : List String → String
  | [] => ""
  | [s] => s
  | s :: rest => s ++ ", " ++ commaSeparated rest

mutual

def text : Value → String
  | nil => "nil"
  | boolean b => if b then "true" else "false"
  | integer n => toString n.toInt
  | float x => Binary64.text x
  | decimal d => d.text
  | string s => Text.quote s
  | symbol name => ":" ++ name
  | date day => day.text
  | dateTime moment => moment.text
  | time moment => moment.text
  | bytes data => "<" ++ toString data.length ++ " bytes>"
  | array items => "[" ++ commaSeparated (itemTexts items) ++ "]"
  | hash entries => "\x7b" ++ commaSeparated (entryTexts entries) ++ "\x7d"
  | object o => "#<" ++ o.className ++ ">"

def itemTexts : List Value → List String
  | [] => []
  | item :: rest => item.text :: itemTexts rest

def entryTexts : List (String × Value) → List String
  | [] => []
  | (key, value) :: rest => (Text.quote key ++ " => " ++ value.text) :: entryTexts rest

end

end Intake.Value
