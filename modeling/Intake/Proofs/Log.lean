import Intake.Log
import Intake.Proofs.Entries
import Mathlib.Data.List.Basic
import Mathlib.Data.List.Induction

/-!
# Log settings from variables

Each variable is taken in on top of those before it; `Draft.Reflects` says what they have made of
the settings so far.  The switches and the level go by the last text of their variable, the form by
the last text that names one: `ofVariables_eq_described`.

So the variables that mean nothing may be left out, but for one case.  A text that names no level
takes the level away that a text before it has named (`Forgets`): `ofVariables_understood_iff`.
-/

namespace Intake.Log.Settings

open Entries (valuesUnder valuesUnder_concat_self valuesUnder_concat_of_ne valuesUnder_filter
  getLast?_filterMap_of_getLast?)

/-! ### What variables describe -/

abbrev debugVariable : String := "INTERACTOR_DEBUG"
abbrev levelVariable : String := "INTERACTOR_LOG_LEVEL"
abbrev formatVariable : String := "INTERACTOR_LOG_FORMAT"
abbrev colorVariable : String := "INTERACTOR_LOG_COLOR"

def usualLevel (debug : Bool) : Level :=
  if debug then .debug else .info

/-- The last text of a variable switches it on. -/
def switched (name : String) (pairs : List (String × String)) : Bool :=
  (valuesUnder name pairs).getLast?.any isOn

def described (pairs : List (String × String)) : Settings where
  debug := switched debugVariable pairs
  level := ((valuesUnder levelVariable pairs).getLast?.bind Level.read?).getD
    (usualLevel (switched debugVariable pairs))
  format := ((valuesUnder formatVariable pairs).filterMap Format.read?).getLast?.getD .json
  color := switched colorVariable pairs

/-- Whether a variable means something: its name is known, and its text too if it has to name a
level or a form. -/
def isUnderstood (pair : String × String) : Bool :=
  pair.1 == debugVariable || pair.1 == colorVariable ||
    pair.1 == levelVariable && (Level.read? pair.2).isSome ||
    pair.1 == formatVariable && (Format.read? pair.2).isSome

def understood (pairs : List (String × String)) : List (String × String) :=
  pairs.filter isUnderstood

def lastLevel? (pairs : List (String × String)) : Option Level :=
  ((valuesUnder levelVariable pairs).filterMap Level.read?).getLast?

/-- The last text of the level names none, and one before it names a level that is not the one that
the settings fall back to. -/
structure Forgets (pairs : List (String × String)) : Prop where
  unread : ∃ text, (valuesUnder levelVariable pairs).getLast? = some text ∧ Level.read? text = none
  named : ∃ level, lastLevel? pairs = some level ∧ level ≠ usualLevel (switched debugVariable pairs)

variable {draft : Draft} {pairs : List (String × String)}

/-! ### One variable, and all of them -/

/-- What variables have made of a draft. -/
structure Draft.Reflects (draft : Draft) (pairs : List (String × String)) : Prop where
  debug : draft.settings.debug = switched debugVariable pairs
  level : draft.level = (valuesUnder levelVariable pairs).getLast?.bind Level.read?
  format : draft.settings.format =
    ((valuesUnder formatVariable pairs).filterMap Format.read?).getLast?.getD .json
  color : draft.settings.color = switched colorVariable pairs

theorem switched_concat_self (name text : String) :
    switched name (pairs ++ [(name, text)]) = isOn text := by
  rw [switched, valuesUnder_concat_self, List.getLast?_concat, Option.any_some]

theorem switched_concat_of_ne {key name : String} (h : key ≠ name) (text : String) :
    switched name (pairs ++ [(key, text)]) = switched name pairs := by
  rw [switched, valuesUnder_concat_of_ne h, switched]

theorem take_debugVariable (text : String) :
    draft.take debugVariable text = { draft with settings.debug := isOn text } :=
  if_pos rfl

theorem take_levelVariable (text : String) :
    draft.take levelVariable text = { draft with level := Level.read? text } := by
  rw [Draft.take, if_neg (by decide), if_pos rfl]

theorem take_formatVariable (text : String) :
    draft.take formatVariable text =
      { draft with settings.format := (Format.read? text).getD draft.settings.format } := by
  rw [Draft.take, if_neg (by decide), if_neg (by decide), if_pos rfl]
  cases Format.read? text with
  | some format => rfl
  | none => rfl

theorem take_colorVariable (text : String) :
    draft.take colorVariable text = { draft with settings.color := isOn text } := by
  rw [Draft.take, if_neg (by decide), if_neg (by decide), if_neg (by decide), if_pos rfl]

theorem take_of_ne {key : String} (hdebug : key ≠ debugVariable) (hlevel : key ≠ levelVariable)
    (hformat : key ≠ formatVariable) (hcolor : key ≠ colorVariable) (text : String) :
    draft.take key text = draft := by
  rw [Draft.take, if_neg hdebug, if_neg hlevel, if_neg hformat, if_neg hcolor]

namespace Draft.Reflects

variable {key text : String}

/-- What goes by other variables is left alone. -/
theorem of_ne (h : draft.Reflects pairs) (hdebug : key ≠ debugVariable)
    (hlevel : key ≠ levelVariable) (hformat : key ≠ formatVariable) (hcolor : key ≠ colorVariable) :
    draft.Reflects (pairs ++ [(key, text)]) where
  debug := by rw [switched_concat_of_ne hdebug, h.debug]
  level := by rw [valuesUnder_concat_of_ne hlevel, h.level]
  format := by rw [valuesUnder_concat_of_ne hformat, h.format]
  color := by rw [switched_concat_of_ne hcolor, h.color]

theorem take (h : draft.Reflects pairs) (key text : String) :
    (draft.take key text).Reflects (pairs ++ [(key, text)]) := by
  by_cases hdebug : key = debugVariable
  · subst hdebug
    rw [take_debugVariable]
    constructor
    · rw [switched_concat_self]
    · rw [valuesUnder_concat_of_ne (by decide), h.level]
    · rw [valuesUnder_concat_of_ne (by decide), h.format]
    · rw [switched_concat_of_ne (by decide), h.color]
  by_cases hlevel : key = levelVariable
  · subst hlevel
    rw [take_levelVariable]
    constructor
    · rw [switched_concat_of_ne (by decide), h.debug]
    · rw [valuesUnder_concat_self, List.getLast?_concat, Option.bind_some]
    · rw [valuesUnder_concat_of_ne (by decide), h.format]
    · rw [switched_concat_of_ne (by decide), h.color]
  by_cases hformat : key = formatVariable
  · subst hformat
    rw [take_formatVariable]
    constructor
    · rw [switched_concat_of_ne (by decide), h.debug]
    · rw [valuesUnder_concat_of_ne (by decide), h.level]
    · rw [valuesUnder_concat_self, List.filterMap_append, h.format]
      cases hread : Format.read? text with
      | some format =>
        rw [List.filterMap_cons_some hread, List.filterMap_nil, List.getLast?_concat,
          Option.getD_some, Option.getD_some]
      | none =>
        rw [List.filterMap_cons_none hread, List.filterMap_nil, List.append_nil, Option.getD_none]
    · rw [switched_concat_of_ne (by decide), h.color]
  by_cases hcolor : key = colorVariable
  · subst hcolor
    rw [take_colorVariable]
    constructor
    · rw [switched_concat_of_ne (by decide), h.debug]
    · rw [valuesUnder_concat_of_ne (by decide), h.level]
    · rw [valuesUnder_concat_of_ne (by decide), h.format]
    · rw [switched_concat_self]
  rw [take_of_ne hdebug hlevel hformat hcolor]
  exact h.of_ne hdebug hlevel hformat hcolor

end Draft.Reflects

theorem reflects_foldl (pairs : List (String × String)) :
    (pairs.foldl (fun draft (key, text) => draft.take key text) ({} : Draft)).Reflects pairs := by
  induction pairs using List.reverseRecOn with
  | nil => exact ⟨rfl, rfl, rfl, rfl⟩
  | append_singleton pairs pair ih =>
    rw [List.foldl_append]
    exact ih.take pair.1 pair.2

theorem Draft.Reflects.finish (h : draft.Reflects pairs) : draft.finish = described pairs := by
  rw [described, ← h.debug, ← h.level, ← h.format, ← h.color]
  rfl

/-- **The settings of variables are those that the variables describe.** -/
theorem ofVariables_eq_described (pairs : List (String × String)) :
    ofVariables pairs = described pairs :=
  (reflects_foldl pairs).finish

/-! ### Variables that are left out -/

theorem isUnderstood_debugVariable (text : String) :
    isUnderstood (debugVariable, text) = true := by
  simp [isUnderstood]

theorem isUnderstood_colorVariable (text : String) :
    isUnderstood (colorVariable, text) = true := by
  simp [isUnderstood]

theorem isUnderstood_levelVariable (text : String) :
    isUnderstood (levelVariable, text) = (Level.read? text).isSome := by
  simp [isUnderstood, debugVariable, levelVariable, formatVariable, colorVariable]

theorem isUnderstood_formatVariable (text : String) :
    isUnderstood (formatVariable, text) = (Format.read? text).isSome := by
  simp [isUnderstood, debugVariable, levelVariable, formatVariable, colorVariable]

variable {keep : String × String → Bool}

theorem switched_filter {name : String} (h : ∀ text, keep (name, text) = true) :
    switched name (pairs.filter keep) = switched name pairs := by
  rw [switched, switched, valuesUnder_filter, List.filter_eq_self.mpr fun text _ => h text]

/-- Where what is understood is kept, no more than the level may change: it is the one that the last
text kept for it names. -/
theorem described_filter (hkeep : ∀ pair, isUnderstood pair = true → keep pair = true) :
    described (pairs.filter keep) = { described pairs with
      level := (((valuesUnder levelVariable pairs).filter
        fun text => keep (levelVariable, text)).getLast?.bind Level.read?).getD
          (usualLevel (described pairs).debug) } := by
  have hdebug : switched debugVariable (pairs.filter keep) = switched debugVariable pairs :=
    switched_filter fun text => hkeep _ (isUnderstood_debugVariable text)
  have hcolor : switched colorVariable (pairs.filter keep) = switched colorVariable pairs :=
    switched_filter fun text => hkeep _ (isUnderstood_colorVariable text)
  have hformat : (valuesUnder formatVariable (pairs.filter keep)).filterMap Format.read? =
      (valuesUnder formatVariable pairs).filterMap Format.read? := by
    rw [valuesUnder_filter, List.filterMap_filter]
    refine List.filterMap_congr fun text _ => ?_
    cases hread : Format.read? text with
    | some format =>
      rw [if_pos (hkeep _ (by rw [isUnderstood_formatVariable, hread, Option.isSome_some]))]
    | none => exact ite_self none
  rw [described, described, hdebug, hcolor, hformat, valuesUnder_filter]

/-- Of the texts that can be read, the last one gives the last reading. -/
theorem getLast?_filter_bind (texts : List String) :
    (texts.filter fun text => (Level.read? text).isSome).getLast?.bind Level.read? =
      (texts.filterMap Level.read?).getLast? := by
  induction texts using List.reverseRecOn with
  | nil => rfl
  | append_singleton texts text ih =>
    rw [List.filter_append, List.filterMap_append]
    cases hread : Level.read? text with
    | some level =>
      rw [List.filter_cons_of_pos (by rw [hread, Option.isSome_some]), List.filter_nil,
        List.filterMap_cons_some hread, List.filterMap_nil, List.getLast?_concat,
        List.getLast?_concat, Option.bind_some, hread]
    | none =>
      rw [List.filter_cons_of_neg (by rw [hread]; exact Bool.false_ne_true), List.filter_nil,
        List.filterMap_cons_none hread, List.filterMap_nil, List.append_nil, List.append_nil, ih]

/-- The level that is left is the last one that a text names. -/
theorem described_understood (pairs : List (String × String)) :
    described (understood pairs) = { described pairs with
      level := (lastLevel? pairs).getD (usualLevel (described pairs).debug) } := by
  rw [understood, described_filter fun _ h => h, lastLevel?, ← getLast?_filter_bind]
  simp only [isUnderstood_levelVariable]

/-- The last text and the last level agree unless the level is forgotten. -/
theorem lastLevel?_getD_eq_iff :
    (lastLevel? pairs).getD (usualLevel (described pairs).debug) = (described pairs).level ↔
      ¬Forgets pairs := by
  rw [described]
  dsimp only
  cases hlast : (valuesUnder levelVariable pairs).getLast? with
  | none =>
    have hnone : lastLevel? pairs = none := by
      rw [lastLevel?, List.getLast?_eq_none_iff.mp hlast]
      rfl
    rw [hnone]
    refine iff_of_true rfl fun h => ?_
    obtain ⟨text, htext, -⟩ := h.unread
    exact absurd (hlast.symm.trans htext) (by simp)
  | some text =>
    cases hread : Level.read? text with
    | some level =>
      have hsome : lastLevel? pairs = some level := getLast?_filterMap_of_getLast? hlast hread
      rw [hsome, Option.bind_some, hread]
      refine iff_of_true rfl fun h => ?_
      obtain ⟨other, hother, hnone⟩ := h.unread
      rw [← Option.some.inj (hlast.symm.trans hother), hread] at hnone
      exact absurd hnone (by simp)
    | none =>
      have hforgets : Forgets pairs ↔ ∃ level, lastLevel? pairs = some level ∧
          level ≠ usualLevel (switched debugVariable pairs) :=
        ⟨fun h => h.named, fun h => ⟨⟨text, hlast, hread⟩, h⟩⟩
      rw [Option.bind_some, hread, Option.getD_none, hforgets]
      cases lastLevel? pairs with
      | none => simp
      | some level => simp

theorem Forgets.level (h : Forgets pairs) :
    (described pairs).level = usualLevel (described pairs).debug := by
  obtain ⟨text, hlast, hread⟩ := h.unread
  rw [described]
  dsimp only
  rw [hlast, Option.bind_some, hread, Option.getD_none]

/-- **What cannot be understood is passed over**, names and forms in any case, and levels if and
only if none is forgotten.  Where one is, there is the usual level in its place. -/
theorem ofVariables_understood_iff (pairs : List (String × String)) :
    (ofVariables (understood pairs) = ofVariables pairs ↔ ¬Forgets pairs) ∧
    (Forgets pairs → ofVariables pairs = { ofVariables (understood pairs) with
      level := usualLevel (ofVariables pairs).debug }) ∧
    ofVariables (pairs.filter fun pair => pair.1 == levelVariable || isUnderstood pair) =
      ofVariables pairs := by
  simp only [ofVariables_eq_described]
  refine ⟨?_, fun h => ?_, ?_⟩
  · rw [← lastLevel?_getD_eq_iff, described_understood]
    constructor
    · intro h
      exact congrArg Settings.level h
    · intro h
      rw [h]
  · rw [described_understood, ← h.level]
  · have hall : ((valuesUnder levelVariable pairs).filter fun text =>
        (levelVariable, text).1 == levelVariable || isUnderstood (levelVariable, text)) =
          valuesUnder levelVariable pairs :=
      List.filter_eq_self.mpr fun text _ => by rw [BEq.rfl, Bool.true_or]
    rw [described_filter fun pair h => by rw [h, Bool.or_true], hall]
    rfl

/-- Variables of which some mean nothing. -/
def mixedVariables : List (String × String) :=
  [("INTERACTOR_LOG_LEVEL", "loud"), ("INTERACTOR_LOG_FORMAT", "Compact"), ("UNRELATED", "x"),
    ("INTERACTOR_LOG_LEVEL", " Warning"), ("INTERACTOR_LOG_FORMAT", "xml"),
    ("INTERACTOR_DEBUG", "maybe")]

theorem ofVariables_understood_iff_mixed :
    ¬Forgets mixedVariables ∧
      ofVariables (understood mixedVariables) = ofVariables mixedVariables ∧
      ofVariables mixedVariables = ⟨false, .warn, .compact, false⟩ := by
  have hsame : ofVariables (understood mixedVariables) = ofVariables mixedVariables := by
    decide +kernel
  exact ⟨(ofVariables_understood_iff mixedVariables).1.mp hsame, hsame, by decide +kernel⟩

/-! ### A level that is forgotten -/

/-- A level, and after it a text that names none. -/
def forgottenVariables : List (String × String) :=
  [("INTERACTOR_LOG_LEVEL", "debug"), ("INTERACTOR_LOG_LEVEL", "loud")]

/-- The text that names no level is not passed over. -/
theorem forgets_level_before_unread :
    understood forgottenVariables = [("INTERACTOR_LOG_LEVEL", "debug")] ∧
      (ofVariables (understood forgottenVariables)).level = .debug ∧
      (ofVariables forgottenVariables).level = .info := by
  refine ⟨?_, ?_, ?_⟩
  · decide +kernel
  · decide +kernel
  · decide +kernel

end Intake.Log.Settings
