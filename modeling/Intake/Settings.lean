import Intake.Context
import Intake.Toml.Reading
import Intake.Zone

/-!
# Settings

The settings of the engine come from variables or from a TOML document and describe the context of a
pass.
-/

namespace Intake

/-- Why there are no settings. -/
inductive SettingsError where
  /-- A zone text is none; it is told without the blanks around it. -/
  | timeZone (text : String)
  /-- A text names no policy. -/
  | policy (text : String)
  /-- A document cannot be read, or its values are of the wrong types. -/
  | unreadable
  /-- There is no document. -/
  | absent

/-- The text of an error.  What the reader of a document or the file system has to say of an
`unreadable` or an `absent` one would follow after a colon; it is not told here. -/
def SettingsError.message : SettingsError → String
  | timeZone text => "Invalid time zone: " ++ text
  | policy text => "Invalid error policy: " ++ text
  | unreadable => "Failed to parse configuration"
  | absent => "IO error"

structure Settings where
  policy : Policy := .promoteFirst
  timeZone : Option String := none
  deriving DecidableEq

namespace Settings

def readZone (s : String) : Except SettingsError Calendar.Offset :=
  match Zone.read? s with
  | some offset => .ok offset
  | none => .error (.timeZone (Text.trim s))

def zone (settings : Settings) : Except SettingsError (Option Calendar.Offset) :=
  match settings.timeZone with
  | none => .ok none
  | some s => (readZone s).map some

/-- The context that settings describe. -/
def context (settings : Settings) : Except SettingsError Context :=
  settings.zone.map fun zone => { policy := settings.policy, zone }

/-! ### Variables -/

def policyVariable : String := "INTERACTOR_ERROR_POLICY"
/-- The variable that chooses the index-qualified policy by a flag. -/
def indexVariable : String := "INTERACTOR_INDEX_ERRORS"
def zoneVariable : String := "INTERACTOR_TIME_ZONE"

def flag? (s : String) : Option Bool :=
  let word := Text.lowerAscii (Text.trim s)
  if ["1", "true", "yes", "on"].contains word then some true
  else if ["0", "false", "no", "off"].contains word then some false
  else none

/-- Settings on the way: a policy that is named counts more than one that a flag chooses. -/
structure Draft where
  settings : Settings := {}
  named : Option Policy := none

/-- Takes a variable in.  The flag is looked at only while no policy is named. -/
def Draft.take (draft : Draft) (key value : String) : Except SettingsError Draft :=
  if key = policyVariable then
    match Policy.read? value with
    | some policy => .ok { draft with named := some policy }
    | none => .error (.policy value)
  else if key = indexVariable && draft.named.isNone then
    match flag? value with
    | some indexed =>
      .ok { draft with settings.policy := if indexed then .indexQualified else .promoteFirst }
    | none => .error (.policy value)
  else if key = zoneVariable && !Text.isBlankText value then
    match readZone value with
    | .ok _ => .ok { draft with settings.timeZone := some (Text.trim value) }
    | .error error => .error error
  else
    .ok draft

def Draft.takeAll (draft : Draft) : List (String × String) → Except SettingsError Draft
  | [] => .ok draft
  | (key, value) :: rest =>
    match draft.take key value with
    | .ok draft => draft.takeAll rest
    | .error error => .error error

def Draft.finish (draft : Draft) : Settings :=
  match draft.named with
  | some policy => { draft.settings with policy }
  | none => draft.settings

def ofVariables (pairs : List (String × String)) : Except SettingsError Settings :=
  (Draft.takeAll {} pairs).map Draft.finish

/-! ### Documents -/

/-- The policy that a document names, by its name or as the only key of a table. -/
def policyOfToml? : Toml → Option Policy
  | .string name => policyNamed? name
  | .table [(name, .table [])] => policyNamed? name
  | .table [(name, .array [])] => policyNamed? name
  | _ => none
where
  /-- The policy with exactly this name. -/
  policyNamed? (name : String) : Option Policy :=
    [Policy.promoteFirst, .indexQualified].find? (·.name == name)

/-- The settings of the root table of a document; keys that mean nothing here are passed over. -/
def ofTable? (entries : List (String × Toml)) : Option Settings := do
  let policy ← match entries.lookup "error_policy" with
    | none => some .promoteFirst
    | some value => policyOfToml? value
  let timeZone ← match entries.lookup "time_zone" with
    | none => some none
    | some (.string s) => some (some s)
    | some _ => none
  return { policy, timeZone }

/-- The settings of a document.  Its zone has to be one. -/
def ofDocument (text : String) : Except SettingsError Settings :=
  match (Toml.read? text).bind ofTable? with
  | none => .error .unreadable
  | some settings => settings.zone.map fun _ => settings

def ofFile (content : Option String) : Except SettingsError Settings :=
  match content with
  | none => .error .absent
  | some text => ofDocument text

end Settings

end Intake
