import Intake.Text.Blank
import Intake.Text.Case

/-!
# Log settings

The level, the form and the color of the log.  What cannot be understood among the variables is
passed over.
-/

namespace Intake.Log

/-- How much is logged, from most to nothing. -/
inductive Level where
  | trace
  | debug
  | info
  | warn
  | error
  | off
  deriving DecidableEq

namespace Level

def directive : Level → String
  | trace => "trace"
  | debug => "debug"
  | info => "info"
  | warn => "warn"
  | error => "error"
  | off => "off"

def text : Level → String
  | trace => "TRACE"
  | debug => "DEBUG"
  | info => "INFO"
  | warn => "WARN"
  | error => "ERROR"
  | off => "OFF"

def rank : Level → Nat
  | trace => 0
  | debug => 1
  | info => 2
  | warn => 3
  | error => 4
  | off => 5

def before (a b : Level) : Bool :=
  a.rank < b.rank

/-- The level that a text names, blanks around it and the case of its letters left aside. -/
def read? (s : String) : Option Level :=
  match Text.lower (Text.trim s) with
  | "trace" => some trace
  | "debug" => some debug
  | "info" => some info
  | "warn" => some warn
  | "warning" => some warn
  | "error" => some error
  | "off" => some off
  | "none" => some off
  | _ => none

end Level

inductive Format where
  | pretty
  | compact
  | json
  deriving DecidableEq

namespace Format

def name : Format → String
  | pretty => "pretty"
  | compact => "compact"
  | json => "json"

def read? (s : String) : Option Format :=
  match Text.lower (Text.trim s) with
  | "pretty" => some pretty
  | "compact" => some compact
  | "json" => some json
  | _ => none

end Format

structure Settings where
  debug : Bool := false
  level : Level := .info
  format : Format := .json
  color : Bool := false
  deriving DecidableEq

namespace Settings

/-- Whether a text switches something on. -/
def isOn (s : String) : Bool :=
  s == "1" || Text.lowerAscii s == "true"

/-- Settings on the way; the level is that of the last variable that gives one, if it can be
understood. -/
structure Draft where
  settings : Settings := {}
  level : Option Level := none

def Draft.take (draft : Draft) (key value : String) : Draft :=
  if key = "INTERACTOR_DEBUG" then { draft with settings.debug := isOn value }
  else if key = "INTERACTOR_LOG_LEVEL" then { draft with level := Level.read? value }
  else if key = "INTERACTOR_LOG_FORMAT" then
    match Format.read? value with
    | some format => { draft with settings.format := format }
    | none => draft
  else if key = "INTERACTOR_LOG_COLOR" then { draft with settings.color := isOn value }
  else draft

/-- The settings of a draft; without a level it is that of debugging or the usual one. -/
def Draft.finish (draft : Draft) : Settings :=
  { draft.settings with
    level := draft.level.getD (if draft.settings.debug then .debug else .info) }

def ofVariables (pairs : List (String × String)) : Settings :=
  (pairs.foldl (fun draft (key, value) => draft.take key value) ({} : Draft)).finish

end Settings

end Intake.Log
