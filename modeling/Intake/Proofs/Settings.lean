import Intake.Settings
import Mathlib.Data.List.Nodup

/-!
# Settings from variables

Variables are taken in one after the other.  `Draft.Accepts` says when all of them can be, and
`described` which settings come out, by the last reading of each variable: `ofVariables_eq_ok_iff`.

Only one thing hangs on the order of variables with different names.  A flag that cannot be read is
passed over after a policy and refused before it (`Contested`).  Apart from it the settings are the
same in every order: `ofVariables_perm_iff`.
-/

namespace Intake.Settings

/-! ### What variables describe -/

def readings {α : Type} (name : String) (read? : String → Option α)
    (pairs : List (String × String)) : List α :=
  pairs.filterMap fun pair => if pair.1 = name then read? pair.2 else none

def flagged? (text : String) : Option Policy :=
  (flag? text).map fun indexed => if indexed then .indexQualified else .promoteFirst

/-- The text of a zone; a blank one sets none. -/
def zoneText? (text : String) : Option String :=
  if Text.isBlankText text then none else some (Text.trim text)

/-- The settings that variables describe: the last policy that is named, or else the last one that a
flag chooses, and the last zone. -/
def described (pairs : List (String × String)) : Settings where
  policy := ((readings policyVariable Policy.read? pairs).getLast?.or
    (readings indexVariable flagged? pairs).getLast?).getD .promoteFirst
  timeZone := (readings zoneVariable zoneText? pairs).getLast?

/-- A variable can be taken in.  A flag need not be readable where a policy is `named` before it. -/
structure Takeable (named : Prop) (key text : String) : Prop where
  policy : key = policyVariable → Policy.read? text ≠ none
  flag : key = indexVariable → ¬named → flag? text ≠ none
  zone : key = zoneVariable → Text.isBlankText text = false → Zone.read? text ≠ none

theorem Takeable.imp {a b : Prop} {key text : String} (h : Takeable a key text) (hab : a → b) :
    Takeable b key text :=
  ⟨h.policy, fun hkey hb => h.flag hkey fun ha => hb (hab ha), h.zone⟩

/-- All variables can be taken in, each after those before it. -/
def Draft.Accepts (draft : Draft) (pairs : List (String × String)) : Prop :=
  ∀ before key text after, pairs = before ++ (key, text) :: after →
    Takeable (draft.named ≠ none ∨ policyVariable ∈ before.map Prod.fst) key text

/-- A flag cannot be read beside a policy, and nothing else stands against the variables. -/
structure Contested (pairs : List (String × String)) : Prop where
  flag : ∃ text, (indexVariable, text) ∈ pairs ∧ flag? text = none
  named : policyVariable ∈ pairs.map Prod.fst
  others : ∀ key text, (key, text) ∈ pairs → Takeable True key text

variable {draft next : Draft} {key text : String} {pairs others rest : List (String × String)}

theorem indexVariable_ne_policyVariable : indexVariable ≠ policyVariable := by decide

theorem zoneVariable_ne_policyVariable : zoneVariable ≠ policyVariable := by decide

theorem zoneVariable_ne_indexVariable : zoneVariable ≠ indexVariable := by decide

/-! ### One variable -/

namespace Draft

/-- What becomes of a draft that takes a variable in. -/
inductive Takes (draft : Draft) : String → String → Draft → Prop where
  | policy {text : String} {policy : Policy} (read : Policy.read? text = some policy) :
      Takes draft policyVariable text { draft with named := some policy }
  | flag {text : String} {policy : Policy} (unnamed : draft.named = none)
      (read : flagged? text = some policy) :
      Takes draft indexVariable text { draft with settings.policy := policy }
  | zone {text : String} (full : Text.isBlankText text = false) (read : Zone.read? text ≠ none) :
      Takes draft zoneVariable text { draft with settings.timeZone := some (Text.trim text) }
  /-- The variable means nothing, here or at all. -/
  | pass {key text : String} (policy : key ≠ policyVariable)
      (flag : key = indexVariable → draft.named ≠ none)
      (zone : key = zoneVariable → Text.isBlankText text = true) : Takes draft key text draft

theorem take_policyVariable (draft : Draft) (text : String) :
    draft.take policyVariable text =
      match Policy.read? text with
      | some policy => .ok { draft with named := some policy }
      | none => .error (.policy text) := by
  have htake : draft.take policyVariable text = _ := if_pos rfl
  refine htake.trans ?_
  cases Policy.read? text with
  | some policy => rfl
  | none => rfl

theorem take_indexVariable (unnamed : draft.named = none) (text : String) :
    draft.take indexVariable text =
      match flagged? text with
      | some policy => .ok { draft with settings.policy := policy }
      | none => .error (.policy text) := by
  rw [take, if_neg indexVariable_ne_policyVariable, unnamed, flagged?]
  cases flag? text with
  | some indexed => rfl
  | none => rfl

theorem take_zoneVariable (draft : Draft) {text : String} (full : Text.isBlankText text = false) :
    draft.take zoneVariable text =
      match Zone.read? text with
      | some _ => .ok { draft with settings.timeZone := some (Text.trim text) }
      | none => .error (.timeZone (Text.trim text)) := by
  rw [take, if_neg zoneVariable_ne_policyVariable, full, readZone]
  cases Zone.read? text with
  | some offset => rfl
  | none => rfl

theorem take_of_pass (policy : key ≠ policyVariable) (flag : key = indexVariable → draft.named ≠ none)
    (zone : key = zoneVariable → Text.isBlankText text = true) :
    draft.take key text = .ok draft := by
  have hflag : ¬(decide (key = indexVariable) && draft.named.isNone) = true := by
    rw [Bool.and_eq_true, decide_eq_true_eq, Option.isNone_iff_eq_none]
    exact fun h => flag h.1 h.2
  have hzone : ¬(decide (key = zoneVariable) && !Text.isBlankText text) = true := by
    rw [Bool.and_eq_true, decide_eq_true_eq, Bool.not_eq_true']
    exact fun h => Bool.false_ne_true (h.2.symm.trans (zone h.1))
  rw [take, if_neg policy, if_neg hflag, if_neg hzone]

theorem take_of_takes (h : draft.Takes key text next) : draft.take key text = .ok next := by
  cases h with
  | policy read => rw [take_policyVariable, read]
  | flag unnamed read => rw [take_indexVariable unnamed, read]
  | zone full read =>
    obtain ⟨offset, hread⟩ := Option.ne_none_iff_exists'.mp read
    rw [take_zoneVariable draft full, hread]
  | pass policy flag zone => exact take_of_pass policy flag zone

/-- A variable that can be taken in is, in one way. -/
theorem exists_takes_of_takeable (h : Takeable (draft.named ≠ none) key text) :
    ∃ next, draft.Takes key text next := by
  by_cases hpolicy : key = policyVariable
  · subst hpolicy
    obtain ⟨policy, hread⟩ := Option.ne_none_iff_exists'.mp (h.policy rfl)
    exact ⟨_, .policy hread⟩
  · by_cases hflag : key = indexVariable ∧ draft.named = none
    · obtain ⟨rfl, hunnamed⟩ := hflag
      obtain ⟨indexed, hread⟩ :=
        Option.ne_none_iff_exists'.mp (h.flag rfl fun hnamed => hnamed hunnamed)
      exact ⟨_, .flag hunnamed (by rw [flagged?, hread, Option.map_some])⟩
    · by_cases hzone : key = zoneVariable ∧ Text.isBlankText text = false
      · obtain ⟨rfl, hfull⟩ := hzone
        exact ⟨_, .zone hfull (h.zone rfl hfull)⟩
      · refine ⟨draft, .pass hpolicy (fun hkey hnone => hflag ⟨hkey, hnone⟩) fun hkey => ?_⟩
        by_contra hblank
        exact hzone ⟨hkey, Bool.eq_false_iff.mpr hblank⟩

theorem takeable_of_take (h : draft.take key text = .ok next) :
    Takeable (draft.named ≠ none) key text := by
  refine ⟨?_, ?_, ?_⟩
  · rintro rfl hread
    rw [take_policyVariable, hread] at h
    exact absurd h (by simp)
  · rintro rfl hunnamed hread
    rw [take_indexVariable (not_not.mp hunnamed), flagged?, hread] at h
    exact absurd h (by simp)
  · rintro rfl hfull hread
    rw [take_zoneVariable draft hfull, hread] at h
    exact absurd h (by simp)

theorem take_eq_ok_iff : draft.take key text = .ok next ↔ draft.Takes key text next := by
  refine ⟨fun h => ?_, take_of_takes⟩
  obtain ⟨other, hother⟩ := exists_takes_of_takeable (takeable_of_take h)
  rw [← Except.ok.inj ((take_of_takes hother).symm.trans h)]
  exact hother

theorem exists_takes_iff :
    (∃ next, draft.Takes key text next) ↔ Takeable (draft.named ≠ none) key text :=
  ⟨fun ⟨_, h⟩ => takeable_of_take (take_of_takes h), exists_takes_of_takeable⟩

/-! ### All variables -/

theorem takeAll_cons_eq_ok_iff {last : Draft} :
    draft.takeAll ((key, text) :: rest) = .ok last ↔
      ∃ next, draft.Takes key text next ∧ next.takeAll rest = .ok last := by
  rw [takeAll]
  constructor
  · intro h
    split at h
    · next next htake => exact ⟨next, take_eq_ok_iff.mp htake, h⟩
    · exact absurd h (by simp)
  · rintro ⟨next, htakes, h⟩
    rw [take_of_takes htakes]
    exact h

/-- A policy is named after a variable if it was before or the variable names one. -/
theorem named_ne_none_iff (h : draft.Takes key text next) :
    next.named ≠ none ↔ draft.named ≠ none ∨ policyVariable = key := by
  cases h with
  | policy read => simp
  | flag unnamed read => simp [unnamed, indexVariable_ne_policyVariable.symm]
  | zone full read => simp [zoneVariable_ne_policyVariable.symm]
  | pass policy flag zone => simp [Ne.symm policy]

theorem accepts_cons_iff :
    draft.Accepts ((key, text) :: rest) ↔
      ∃ next, draft.Takes key text next ∧ next.Accepts rest := by
  have hnamed : ∀ {next : Draft}, draft.Takes key text next → ∀ before : List (String × String),
      (draft.named ≠ none ∨ policyVariable ∈ ((key, text) :: before).map Prod.fst) ↔
        (next.named ≠ none ∨ policyVariable ∈ before.map Prod.fst) := by
    intro next hnext before
    rw [named_ne_none_iff hnext, List.map_cons, List.mem_cons, or_assoc]
  constructor
  · intro h
    have hfirst : Takeable (draft.named ≠ none) key text := by
      refine (h [] key text rest rfl).imp fun hbefore => ?_
      exact hbefore.resolve_right List.not_mem_nil
    obtain ⟨next, hnext⟩ := exists_takes_iff.mpr hfirst
    refine ⟨next, hnext, fun before k t after he => ?_⟩
    rw [← hnamed hnext before]
    exact h ((key, text) :: before) k t after (by rw [he, List.cons_append])
  · rintro ⟨next, hnext, h⟩ before k t after he
    cases before with
    | nil =>
      obtain ⟨hpair, -⟩ := List.cons.inj he
      obtain ⟨rfl, rfl⟩ := Prod.mk.inj hpair
      exact (exists_takes_iff.mp ⟨next, hnext⟩).imp Or.inl
    | cons first before =>
      obtain ⟨rfl, hrest⟩ := List.cons.inj he
      rw [hnamed hnext before]
      exact h before k t after hrest

theorem exists_takeAll_iff : ∀ {draft : Draft},
    (∃ last, draft.takeAll pairs = .ok last) ↔ draft.Accepts pairs := by
  induction pairs with
  | nil =>
    intro draft
    refine iff_of_true ⟨draft, rfl⟩ fun before key text after he => ?_
    exact absurd he (by simp)
  | cons pair rest ih =>
    intro draft
    obtain ⟨key, text⟩ := pair
    rw [accepts_cons_iff]
    simp only [takeAll_cons_eq_ok_iff, ← ih]
    constructor
    · rintro ⟨last, next, hnext, hlast⟩
      exact ⟨next, hnext, last, hlast⟩
    · rintro ⟨next, hnext, last, hlast⟩
      exact ⟨last, next, hnext, hlast⟩

end Draft

/-! ### The last readings -/

theorem readings_cons_of_some {α : Type} {name : String} {read? : String → Option α} {a : α}
    (h : read? text = some a) :
    readings name read? ((name, text) :: rest) = a :: readings name read? rest := by
  rw [readings, List.filterMap_cons_some (by rw [if_pos rfl, h]), readings]

theorem readings_cons_of_none {α : Type} {name : String} {read? : String → Option α}
    (h : key = name → read? text = none) :
    readings name read? ((key, text) :: rest) = readings name read? rest := by
  rw [readings, List.filterMap_cons_none, readings]
  exact ite_eq_right_iff.mpr h

theorem readings_cons_of_ne {α : Type} {name : String} {read? : String → Option α}
    (h : key ≠ name) : readings name read? ((key, text) :: rest) = readings name read? rest :=
  readings_cons_of_none fun he => absurd he h

namespace Draft

/-- The settings that variables describe on top of a draft. -/
def describes (draft : Draft) (pairs : List (String × String)) : Settings where
  policy := (((readings policyVariable Policy.read? pairs).getLast?.or draft.named).or
    (readings indexVariable flagged? pairs).getLast?).getD draft.settings.policy
  timeZone := (readings zoneVariable zoneText? pairs).getLast?.or draft.settings.timeZone

/-- Taking a variable in does not change what is described in all. -/
theorem describes_cons (h : draft.Takes key text next) :
    draft.describes ((key, text) :: rest) = next.describes rest := by
  cases h with
  | policy read =>
    rw [describes, describes, readings_cons_of_some read,
      readings_cons_of_ne indexVariable_ne_policyVariable.symm,
      readings_cons_of_ne zoneVariable_ne_policyVariable.symm, List.getLast?_cons, Option.some_or,
      Option.or_some]
  | flag unnamed read =>
    rw [describes, describes, readings_cons_of_ne indexVariable_ne_policyVariable,
      readings_cons_of_some read, readings_cons_of_ne zoneVariable_ne_indexVariable.symm,
      List.getLast?_cons, unnamed, Option.or_none]
    cases (readings policyVariable Policy.read? rest).getLast? with
    | some named => rfl
    | none => rw [Option.none_or, Option.none_or, Option.getD_some]
  | zone full read =>
    have hzone : zoneText? text = some (Text.trim text) := by
      rw [zoneText?, full, if_neg Bool.false_ne_true]
    rw [describes, describes, readings_cons_of_ne zoneVariable_ne_policyVariable,
      readings_cons_of_ne zoneVariable_ne_indexVariable, readings_cons_of_some hzone,
      List.getLast?_cons, Option.some_or, Option.or_some]
  | pass policy flag zone =>
    have hzones : readings zoneVariable zoneText? ((key, text) :: rest) =
        readings zoneVariable zoneText? rest :=
      readings_cons_of_none fun h => by rw [zoneText?, zone h, if_pos rfl]
    rw [describes, describes, readings_cons_of_ne policy, hzones]
    by_cases hkey : key = indexVariable
    · -- a policy that is named counts more than any flag
      obtain ⟨named, hnamed⟩ := Option.ne_none_iff_exists'.mp (flag hkey)
      rw [hnamed, Option.or_some, Option.some_or, Option.some_or]
    · rw [readings_cons_of_ne hkey]

theorem finish_of_takeAll : ∀ {draft last : Draft}, draft.takeAll pairs = .ok last →
    last.finish = draft.describes pairs := by
  induction pairs with
  | nil =>
    intro draft last h
    rw [← Except.ok.inj h, finish]
    cases hnamed : draft.named with
    | none => simp [describes, readings, hnamed]
    | some policy => simp [describes, readings, hnamed]
  | cons pair rest ih =>
    intro draft last h
    obtain ⟨key, text⟩ := pair
    obtain ⟨next, hnext, hlast⟩ := takeAll_cons_eq_ok_iff.mp h
    rw [describes_cons hnext]
    exact ih hlast

end Draft

/-- **Variables that are accepted give the settings that they describe**, and no others give any. -/
theorem ofVariables_eq_ok_iff {settings : Settings} :
    ofVariables pairs = .ok settings ↔ Draft.Accepts {} pairs ∧ settings = described pairs := by
  have hdescribes : Draft.describes {} pairs = described pairs := by
    rw [Draft.describes, described, Option.or_none, Option.or_none]
  have hok : ofVariables pairs = .ok settings ↔
      ∃ last, Draft.takeAll {} pairs = .ok last ∧ last.finish = settings := by
    rw [ofVariables]
    cases Draft.takeAll {} pairs with
    | ok last => simp [Except.map]
    | error error => simp [Except.map]
  rw [hok, ← Draft.exists_takeAll_iff, ← hdescribes]
  constructor
  · rintro ⟨last, hlast, rfl⟩
    exact ⟨⟨last, hlast⟩, Draft.finish_of_takeAll hlast⟩
  · rintro ⟨⟨last, hlast⟩, rfl⟩
    exact ⟨last, hlast, Draft.finish_of_takeAll hlast⟩

/-! ### The order of variables -/

theorem eq_of_perm_of_length_le_one {α : Type} {as bs : List α} (h : as.Perm bs)
    (hle : bs.length ≤ 1) : as = bs := by
  match bs with
  | [] => exact List.perm_nil.mp h
  | [b] => exact List.perm_singleton.mp h
  | _ :: _ :: _ => exact absurd hle (by simp)

/-- Variables with different names give no variable two readings. -/
theorem length_readings_le_one {α : Type} {name : String} {read? : String → Option α}
    (distinct : (pairs.map Prod.fst).Nodup) : (readings name read? pairs).length ≤ 1 := by
  induction pairs with
  | nil => exact Nat.zero_le 1
  | cons pair rest ih =>
    obtain ⟨key, text⟩ := pair
    rw [List.map_cons, List.nodup_cons] at distinct
    by_cases hread : key = name → read? text = none
    · rw [readings_cons_of_none hread]
      exact ih distinct.2
    · rw [Classical.not_imp] at hread
      obtain ⟨rfl, hread⟩ := hread
      obtain ⟨a, ha⟩ := Option.ne_none_iff_exists'.mp hread
      have hrest : readings key read? rest = [] := by
        rw [readings, List.filterMap_eq_nil_iff]
        intro other ho
        exact if_neg fun he => distinct.1 (List.mem_map.mpr ⟨other, ho, he⟩)
      rw [readings_cons_of_some ha, hrest]
      exact Nat.le_refl 1

theorem described_of_perm (distinct : (pairs.map Prod.fst).Nodup) (perm : others.Perm pairs) :
    described others = described pairs := by
  have hreadings : ∀ {α : Type} (name : String) (read? : String → Option α),
      readings name read? others = readings name read? pairs := by
    intro α name read?
    exact eq_of_perm_of_length_le_one (perm.filterMap _) (length_readings_le_one distinct)
  rw [described, described, hreadings, hreadings, hreadings]

theorem Contested.of_perm (perm : others.Perm pairs) (h : Contested others) : Contested pairs where
  flag := h.flag.imp fun _ hflag => ⟨perm.subset hflag.1, hflag.2⟩
  named := (perm.map Prod.fst).subset h.named
  others := fun key text hm => h.others key text (perm.mem_iff.mpr hm)

/-- What is accepted in one order is accepted in every other one, unless it is contested. -/
theorem accepts_of_perm (perm : others.Perm pairs) (contested : ¬Contested pairs)
    (h : Draft.Accepts {} others) : Draft.Accepts {} pairs := by
  have hothers : ∀ k t, (k, t) ∈ pairs → ∃ before : List (String × String),
      Takeable (policyVariable ∈ before.map Prod.fst) k t ∧ before ⊆ pairs := by
    intro k t hm
    obtain ⟨before, after, he⟩ := List.append_of_mem (perm.mem_iff.mpr hm)
    refine ⟨before, (h before k t after he).imp fun hb => hb.resolve_left fun hn => hn rfl, ?_⟩
    exact fun pair hp => perm.subset (he ▸ List.mem_append_left _ hp)
  intro before key text after he
  have hmem : (key, text) ∈ pairs := he ▸ List.mem_append_right _ List.mem_cons_self
  obtain ⟨earlier, htakeable, hsub⟩ := hothers key text hmem
  refine ⟨htakeable.policy, fun hkey _ hread => ?_, htakeable.zone⟩
  refine htakeable.flag hkey (fun hnamed => contested ⟨⟨text, hkey ▸ hmem, hread⟩, ?_, ?_⟩) hread
  · exact List.map_subset _ hsub hnamed
  · intro k t hm
    obtain ⟨_, htaken, _⟩ := hothers k t hm
    exact htaken.imp fun _ => trivial

/-- Contested variables are accepted if and only if a policy comes before the flag. -/
theorem accepts_iff_of_contested (distinct : (pairs.map Prod.fst).Nodup)
    (contested : Contested pairs) :
    Draft.Accepts {} pairs ↔ [policyVariable, indexVariable].Sublist (pairs.map Prod.fst) := by
  constructor
  · intro h
    obtain ⟨text, hm, hread⟩ := contested.flag
    obtain ⟨before, after, rfl⟩ := List.append_of_mem hm
    have hnamed : policyVariable ∈ before.map Prod.fst := by
      by_contra hbefore
      refine (h before indexVariable text after rfl).flag rfl ?_ hread
      exact not_or.mpr ⟨fun hn => hn rfl, hbefore⟩
    rw [List.map_append, List.map_cons]
    exact (List.singleton_sublist.mpr hnamed).append
      (List.singleton_sublist.mpr List.mem_cons_self)
  · intro h before key text after he
    have htakeable : Takeable True key text :=
      contested.others key text (he ▸ List.mem_append_right _ List.mem_cons_self)
    refine ⟨htakeable.policy, fun hkey hbefore => absurd ?_ hbefore, htakeable.zone⟩
    subst hkey
    rw [he, List.map_append, List.map_cons] at h distinct
    obtain ⟨front, back, hsplit, hfront, hback⟩ := List.sublist_append_iff.mp h
    cases front with
    | cons first front =>
      obtain ⟨rfl, -⟩ := List.cons.inj hsplit
      exact Or.inr (hfront.subset List.mem_cons_self)
    | nil =>
      -- then the flag would come a second time, after the policy
      rw [List.nil_append] at hsplit
      subst hsplit
      obtain ⟨hfresh, -⟩ := List.nodup_cons.mp (List.nodup_append.mp distinct).2.1
      rcases List.sublist_cons_iff.mp hback with hlater | ⟨later, he, -⟩
      · exact absurd (hlater.subset (List.mem_cons_of_mem _ List.mem_cons_self)) hfresh
      · exact absurd (List.cons.inj he).1.symm indexVariable_ne_policyVariable

theorem exists_ofVariables_iff :
    (∃ settings, ofVariables pairs = .ok settings) ↔ Draft.Accepts {} pairs := by
  simp only [ofVariables_eq_ok_iff, exists_and_left, exists_eq, and_true]

/-- Variables that describe the same give the same if both are accepted or neither are. -/
theorem toOption_ofVariables_eq_iff (same : described others = described pairs) :
    (ofVariables others).toOption = (ofVariables pairs).toOption ↔
      (Draft.Accepts {} others ↔ Draft.Accepts {} pairs) := by
  rw [← exists_ofVariables_iff, ← exists_ofVariables_iff]
  cases ho : ofVariables others with
  | ok a =>
    cases hp : ofVariables pairs with
    | ok b =>
      have hab : a = b := by
        rw [(ofVariables_eq_ok_iff.mp ho).2, (ofVariables_eq_ok_iff.mp hp).2, same]
      simp [hab]
    | error e => simp [Except.toOption]
  | error e =>
    cases hp : ofVariables pairs with
    | ok b => simp [Except.toOption]
    | error e => simp [Except.toOption]

/-- Contested variables can be put in an order that is accepted and in one that is not. -/
theorem exists_perm_of_contested (contested : Contested pairs) :
    (∃ others : List (String × String), others.Perm pairs ∧ Draft.Accepts {} others) ∧
      ∃ others : List (String × String), others.Perm pairs ∧ ¬Draft.Accepts {} others := by
  constructor
  · obtain ⟨⟨key, text⟩, hm, rfl⟩ := List.mem_map.mp contested.named
    have hperm := (List.perm_cons_erase hm).symm
    refine ⟨_, hperm, fun before k t after he => ?_⟩
    have htakeable := contested.others k t
      (hperm.subset (he ▸ List.mem_append_right _ List.mem_cons_self))
    refine ⟨htakeable.policy, fun hkey hbefore => absurd ?_ hbefore, htakeable.zone⟩
    cases before with
    | nil =>
      obtain ⟨hpair, -⟩ := List.cons.inj he
      rw [← (Prod.mk.inj hpair).1] at hkey
      exact absurd hkey.symm indexVariable_ne_policyVariable
    | cons first before =>
      obtain ⟨rfl, -⟩ := List.cons.inj he
      exact Or.inr List.mem_cons_self
  · obtain ⟨text, hm, hread⟩ := contested.flag
    refine ⟨_, (List.perm_cons_erase hm).symm, fun h => ?_⟩
    exact (h [] indexVariable text _ rfl).flag rfl (by simp) hread

/-- **Settings do not depend on the order of variables with different names** if and only if these are
not contested.  Those that are give settings if and only if the policy comes before the flag.  No two
orders give different settings. -/
theorem ofVariables_perm_iff (distinct : (pairs.map Prod.fst).Nodup) :
    ((∀ others : List (String × String), others.Perm pairs →
        (ofVariables others).toOption = (ofVariables pairs).toOption) ↔ ¬Contested pairs) ∧
    (Contested pairs → ((∃ settings, ofVariables pairs = .ok settings) ↔
      [policyVariable, indexVariable].Sublist (pairs.map Prod.fst))) ∧
    ∀ others settings later, others.Perm pairs → ofVariables others = .ok settings →
      ofVariables pairs = .ok later → settings = later := by
  have hdescribed : ∀ {others : List (String × String)}, others.Perm pairs →
      described others = described pairs := described_of_perm distinct
  refine ⟨⟨fun h contested => ?_, fun contested others perm => ?_⟩, fun contested => ?_, ?_⟩
  · obtain ⟨⟨good, hgood, haccepts⟩, bad, hbad, hrefuses⟩ := exists_perm_of_contested contested
    have hpairs := (toOption_ofVariables_eq_iff (hdescribed hgood)).mp (h good hgood)
    have hothers := (toOption_ofVariables_eq_iff (hdescribed hbad)).mp (h bad hbad)
    exact hrefuses (hothers.mpr (hpairs.mp haccepts))
  · rw [toOption_ofVariables_eq_iff (hdescribed perm)]
    exact ⟨accepts_of_perm perm contested,
      accepts_of_perm perm.symm fun h => contested (h.of_perm perm)⟩
  · rw [exists_ofVariables_iff]
    exact accepts_iff_of_contested distinct contested
  · intro others settings later perm hothers hpairs
    rw [(ofVariables_eq_ok_iff.mp hothers).2, (ofVariables_eq_ok_iff.mp hpairs).2, hdescribed perm]

/-- Variables of which none is at fault, with one that means nothing. -/
def plainVariables : List (String × String) :=
  [("INTERACTOR_INDEX_ERRORS", "true"), ("INTERACTOR_TIME_ZONE", "+01:00"), ("UNRELATED", "x")]

theorem ofVariables_perm_iff_plain :
    (plainVariables.map Prod.fst).Nodup ∧ ¬Contested plainVariables ∧
      ∀ others : List (String × String), others.Perm plainVariables →
        (ofVariables others).toOption = some ⟨.indexQualified, some "+01:00"⟩ := by
  have distinct : (plainVariables.map Prod.fst).Nodup := by decide
  have contested : ¬Contested plainVariables := fun h => absurd h.named (by decide)
  refine ⟨distinct, contested, fun others perm => ?_⟩
  rw [(ofVariables_perm_iff distinct).1.mpr contested others perm]
  decide +kernel

/-! ### A flag at fault -/

/-- A flag that cannot be read, and a policy after it. -/
def contestedVariables : List (String × String) :=
  [("INTERACTOR_INDEX_ERRORS", "maybe"), ("INTERACTOR_ERROR_POLICY", "promote_first")]

/-- The policy counts in one order only. -/
theorem refuses_flag_before_policy :
    (contestedVariables.map Prod.fst).Nodup ∧
      contestedVariables.reverse.Perm contestedVariables ∧
      (ofVariables contestedVariables).toOption = none ∧
      (ofVariables contestedVariables.reverse).toOption = some ⟨.promoteFirst, none⟩ := by
  refine ⟨by decide, List.reverse_perm _, ?_, ?_⟩
  · decide +kernel
  · decide +kernel

end Intake.Settings
