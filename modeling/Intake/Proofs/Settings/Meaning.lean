import Intake.Proofs.Entries
import Intake.Proofs.Settings
import Intake.Proofs.Zone

/-!
# What variables mean

`Meaning` says what settings make of variables, by the last text that each variable has.  All
settings that come from variables have this meaning, and there is a context that they describe, in
the zone that their text spells: `meaning_of_ofVariables`.
-/

namespace Intake.Settings

open Entries (valuesUnder mem_valuesUnder getLast?_filterMap_of_getLast?)

/-- What settings make of variables. -/
structure Meaning (pairs : List (String × String)) (settings : Settings) : Prop where
  /-- The last policy counts, wherever it stands. -/
  named : ∀ text, (valuesUnder policyVariable pairs).getLast? = some text →
    Policy.read? text = some settings.policy
  /-- Without a policy the last flag counts. -/
  flagged : valuesUnder policyVariable pairs = [] → ∀ text,
    (valuesUnder indexVariable pairs).getLast? = some text → flagged? text = some settings.policy
  unnamed : valuesUnder policyVariable pairs = [] → valuesUnder indexVariable pairs = [] →
    settings.policy = .promoteFirst
  /-- The last zone counts that is not blank. -/
  zone : settings.timeZone = ((valuesUnder zoneVariable pairs).filter
    fun text => !Text.isBlankText text).getLast?.map Text.trim

variable {α : Type} {name key text : String} {read? : String → Option α} {a : α}
  {pairs : List (String × String)} {settings : Settings}

/-! ### The last text of a variable -/

theorem readings_eq_filterMap : readings name read? pairs =
    (valuesUnder name pairs).filterMap read? := by
  rw [readings, valuesUnder, List.filterMap_filterMap]
  refine List.filterMap_congr fun pair _ => ?_
  by_cases h : pair.1 = name
  · rw [if_pos h, if_pos h, Option.bind_some]
  · rw [if_neg h, if_neg h, Option.bind_none]

theorem getLast?_readings_of_read (hlast : (valuesUnder name pairs).getLast? = some text)
    (hread : read? text = some a) : (readings name read? pairs).getLast? = some a := by
  rw [readings_eq_filterMap]
  exact getLast?_filterMap_of_getLast? hlast hread

theorem readings_of_valuesUnder_eq_nil (h : valuesUnder name pairs = []) :
    readings name read? pairs = [] := by
  rw [readings_eq_filterMap, h, List.filterMap_nil]

theorem readings_zoneText? : readings zoneVariable zoneText? pairs =
    ((valuesUnder zoneVariable pairs).filter fun text => !Text.isBlankText text).map Text.trim := by
  rw [readings_eq_filterMap, ← List.filterMap_eq_map, List.filterMap_filter]
  refine List.filterMap_congr fun text _ => ?_
  rw [zoneText?]
  cases Text.isBlankText text with
  | true => rfl
  | false => rfl

/-! ### Variables that are accepted -/

theorem Draft.Accepts.takeable (h : Draft.Accepts {} pairs) (hm : (key, text) ∈ pairs) :
    Takeable (policyVariable ∈ pairs.map Prod.fst) key text := by
  obtain ⟨before, after, he⟩ := List.append_of_mem hm
  refine (h before key text after he).imp fun hbefore => ?_
  rw [he, List.map_append]
  exact List.mem_append_left _ (hbefore.resolve_left fun hnamed => hnamed rfl)

theorem meaning_described (h : Draft.Accepts {} pairs) : Meaning pairs (described pairs) := by
  have hunnamed : valuesUnder policyVariable pairs = [] →
      policyVariable ∉ pairs.map Prod.fst := by
    intro hnil hm
    obtain ⟨⟨_, text⟩, hpair, rfl⟩ := List.mem_map.mp hm
    exact absurd (mem_valuesUnder.mpr hpair) (by simp [hnil])
  refine ⟨fun text hlast => ?_, fun hnil text hlast => ?_, fun hnil hflags => ?_, ?_⟩
  · have hm := mem_valuesUnder.mp (List.mem_of_getLast? hlast)
    obtain ⟨policy, hread⟩ := Option.ne_none_iff_exists'.mp ((h.takeable hm).policy rfl)
    rw [described, getLast?_readings_of_read hlast hread, Option.some_or, Option.getD_some, hread]
  · have hm := mem_valuesUnder.mp (List.mem_of_getLast? hlast)
    obtain ⟨indexed, hflag⟩ :=
      Option.ne_none_iff_exists'.mp ((h.takeable hm).flag rfl (hunnamed hnil))
    obtain ⟨policy, hread⟩ : ∃ policy, flagged? text = some policy := by
      rw [flagged?, hflag]
      exact ⟨_, rfl⟩
    rw [described, readings_of_valuesUnder_eq_nil hnil, getLast?_readings_of_read hlast hread,
      List.getLast?_nil, Option.none_or, Option.getD_some, hread]
  · rw [described, readings_of_valuesUnder_eq_nil hnil, readings_of_valuesUnder_eq_nil hflags]
    rfl
  · rw [described, readings_zoneText?, List.getLast?_map]

/-- The zone that is set is one, since its text was read before the blanks were taken off. -/
theorem exists_readZone_described (h : Draft.Accepts {} pairs)
    (hzone : (described pairs).timeZone = some text) : ∃ offset, readZone text = .ok offset := by
  rw [(meaning_described h).zone, Option.map_eq_some_iff] at hzone
  obtain ⟨written, hlast, rfl⟩ := hzone
  obtain ⟨hm, hfull⟩ := List.mem_filter.mp (List.mem_of_getLast? hlast)
  rw [Bool.not_eq_true'] at hfull
  obtain ⟨offset, hread⟩ := Option.ne_none_iff_exists'.mp
    ((h.takeable (mem_valuesUnder.mp hm)).zone rfl hfull)
  refine ⟨offset, ?_⟩
  rw [readZone, Zone.read?_trim, hread]

/-- **Settings from variables mean what the last text of each variable says**, and they describe a
context with their policy and with the zone that their text spells, if they have one. -/
theorem meaning_of_ofVariables (h : ofVariables pairs = .ok settings) :
    Meaning pairs settings ∧ ∃ zone, settings.context = .ok { policy := settings.policy, zone } ∧
      settings.timeZone.map readZone = zone.map .ok := by
  obtain ⟨haccepts, rfl⟩ := ofVariables_eq_ok_iff.mp h
  refine ⟨meaning_described haccepts, ?_⟩
  rw [context, Settings.zone]
  cases hzone : (described pairs).timeZone with
  | none => exact ⟨none, rfl, rfl⟩
  | some text =>
    obtain ⟨offset, hoffset⟩ := exists_readZone_described haccepts hzone
    refine ⟨some offset, ?_, ?_⟩
    · dsimp only
      rw [hoffset]
      rfl
    · rw [Option.map_some, hoffset, Option.map_some]

def repeatedVariables : List (String × String) :=
  [("INTERACTOR_INDEX_ERRORS", "off"), ("INTERACTOR_TIME_ZONE", "UTC"),
    ("INTERACTOR_ERROR_POLICY", "first"), ("INTERACTOR_INDEX_ERRORS", "maybe"),
    ("INTERACTOR_TIME_ZONE", " +05:45\t"), ("UNRELATED", "x"),
    ("INTERACTOR_ERROR_POLICY", " Index"), ("INTERACTOR_TIME_ZONE", "  ")]

theorem meaning_of_ofVariables_repeated :
    ofVariables repeatedVariables = .ok ⟨.indexQualified, some "+05:45"⟩ ∧
      Meaning repeatedVariables ⟨.indexQualified, some "+05:45"⟩ ∧
      ∃ zone, (⟨.indexQualified, some "+05:45"⟩ : Settings).context =
          .ok { policy := .indexQualified, zone } ∧
        (some "+05:45").map readZone = zone.map .ok := by
  have hoption : (ofVariables repeatedVariables).toOption =
      some ⟨.indexQualified, some "+05:45"⟩ := by decide +kernel
  have hsettings : ofVariables repeatedVariables = .ok ⟨.indexQualified, some "+05:45"⟩ := by
    cases h : ofVariables repeatedVariables with
    | ok settings => rw [h] at hoption; rw [Option.some.inj hoption]
    | error error => rw [h] at hoption; exact absurd hoption (by simp [Except.toOption])
  exact ⟨hsettings, meaning_of_ofVariables hsettings⟩

end Intake.Settings
