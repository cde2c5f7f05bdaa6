import Intake.Proofs.ClassName
import Intake.Proofs.Text.Letter
import Intake.Proofs.Text.Split
import Mathlib.Data.List.Forall2

/-!
# Class names that filter names spell

A filter name in small letters, digits and underscores, with slashes between its segments, spells a
class name if and only if every segment starts with a letter, underscores left aside:
`isClassName_camelize_iff`.  The constants of the class name are then the segments without their
underscores, `renders_camelize`.
-/

namespace Intake.ClassName

/-- The first character of a segment that is no underscore is a letter. -/
def StartsWithLetter (segment : List Char) : Prop :=
  ∃ c, segment.find? (· ≠ '_') = some c ∧ c.isAlpha = true

instance : DecidablePred StartsWithLetter :=
  fun segment => decidable_of_iff ((segment.find? (· ≠ '_')).any Char.isAlpha = true)
    (Option.any_eq_true _ _)

/-- A constant is a segment without its underscores, but for the case of the letters. -/
def Renders (segment part : List Char) : Prop :=
  Constant part ∧ part.map Char.toLower = segment.filter (· ≠ '_')

/-- A small letter or a digit. -/
def Plain (c : Char) : Prop :=
  c.isLower = true ∨ c.isDigit = true

instance : DecidablePred Plain :=
  fun c => inferInstanceAs (Decidable (c.isLower = true ∨ c.isDigit = true))

variable {c : Char} {segment : List Char} {name : String}

/-! ### Plain characters -/

theorem Plain.isAlphanum (h : Plain c) : c.isAlphanum = true := by
  rcases h with h | h
  · exact Text.isAlphanum_of_isLower h
  · exact Text.isAlphanum_of_isDigit h

theorem Plain.toLower (h : Plain c) : c.toLower = c := by
  refine Text.toLower_of_not_isUpper ?_
  rcases h with h | h
  · exact Text.not_isUpper_of_isLower h
  · exact Text.not_isUpper_of_isDigit h

theorem isAlphanum_of_plain_toLower (h : Plain c.toLower) : c.isAlphanum = true := by
  cases hupper : c.isUpper with
  | true => exact Text.isAlphanum_of_isUpper hupper
  | false =>
    rw [Text.toLower_of_not_isUpper hupper] at h
    exact h.isAlphanum

/-! ### Constants -/

theorem map_toLower_capitalize (h : ∀ c ∈ segment, Plain c) :
    (capitalize segment).map Char.toLower = segment := by
  cases segment with
  | nil => rfl
  | cons c rest =>
    obtain ⟨hc, hrest⟩ := List.forall_mem_cons.mp h
    have cased := Text.cased_of_isAlphanum hc.isAlphanum
    rw [capitalize, cased.upper, List.cons_append, List.nil_append, List.map_cons,
      cased.toLower_toUpper, hc.toLower,
      List.map_congr_left fun d hd => (hrest d hd).toLower, List.map_id']

def Segment (segment : List Char) : Prop :=
  ∀ c ∈ segment, Plain c ∨ c = '_'

/-- Lowered again, a constant has the characters of its segment without the underscores. -/
theorem map_toLower_camelizeSegment (h : Segment segment) :
    (camelizeSegment segment).map Char.toLower = segment.filter (· ≠ '_') := by
  have hwords : ∀ word ∈ Text.splitAt '_' segment, (capitalize word).map Char.toLower = word := by
    intro word hword
    refine map_toLower_capitalize fun c hc => ?_
    obtain ⟨hm, hne⟩ := Text.mem_of_mem_splitAt hword hc
    exact (h c hm).resolve_right hne
  rw [camelizeSegment, List.map_flatMap, ← Text.flatten_splitAt, List.flatMap_congr hwords,
    List.flatMap_id']

theorem isAlphanum_of_mem_camelizeSegment (h : Segment segment)
    (hc : c ∈ camelizeSegment segment) : c.isAlphanum = true := by
  have hlower : c.toLower ∈ segment.filter (· ≠ '_') := by
    rw [← map_toLower_camelizeSegment h]
    exact List.mem_map_of_mem hc
  rw [List.mem_filter, decide_eq_true_eq] at hlower
  exact isAlphanum_of_plain_toLower ((h _ hlower.1).resolve_right hlower.2)

/-- A constant starts with the first character that is no underscore, in upper case. -/
theorem head?_camelizeSegment (h : Segment segment) :
    (camelizeSegment segment).head? = (segment.find? (· ≠ '_')).map Char.toUpper := by
  induction segment with
  | nil => rfl
  | cons c rest ih =>
    obtain ⟨hc, hrest⟩ := List.forall_mem_cons.mp h
    rw [camelizeSegment, Text.splitAt]
    by_cases hunderscore : c = '_'
    · rw [if_pos hunderscore, List.flatMap_cons, capitalize, List.nil_append,
        List.find?_cons_of_neg (by simp [hunderscore]), ← ih hrest, camelizeSegment]
    · rw [if_neg hunderscore, List.find?_cons_of_pos (by simp [hunderscore]), Option.map_some]
      have hupper := (Text.cased_of_isAlphanum (hc.resolve_right hunderscore).isAlphanum).upper
      cases Text.splitAt '_' rest with
      | nil => rw [Text.consHead, List.flatMap_cons, capitalize, hupper]; rfl
      | cons word words => rw [Text.consHead, List.flatMap_cons, capitalize, hupper]; rfl

theorem constant_camelizeSegment_iff (h : Segment segment) :
    Constant (camelizeSegment segment) ↔ StartsWithLetter segment := by
  have hhead := head?_camelizeSegment h
  have hfirst : ∀ c, segment.find? (· ≠ '_') = some c → Text.Cased c := by
    intro c hc
    have hne : c ≠ '_' := by simpa using List.find?_some hc
    exact Text.cased_of_isAlphanum
      ((h c (List.mem_of_find?_eq_some hc)).resolve_right hne).isAlphanum
  constructor
  · rintro ⟨c, rest, he, hupper, -⟩
    rw [he, List.head?_cons, eq_comm, Option.map_eq_some_iff] at hhead
    obtain ⟨first, hfind, rfl⟩ := hhead
    exact ⟨first, hfind, by rw [← (hfirst first hfind).isUpper_toUpper, hupper]⟩
  · rintro ⟨first, hfind, hletter⟩
    rw [hfind, Option.map_some, List.head?_eq_some_iff] at hhead
    obtain ⟨rest, he⟩ := hhead
    refine ⟨first.toUpper, rest, he, by rw [(hfirst first hfind).isUpper_toUpper, hletter],
      fun d hd => Or.inl ?_⟩
    exact isAlphanum_of_mem_camelizeSegment h (he ▸ List.mem_cons_of_mem _ hd)

theorem colon_notMem_camelizeSegment (h : Segment segment) : ':' ∉ camelizeSegment segment :=
  fun hm => absurd (isAlphanum_of_mem_camelizeSegment h hm) (by decide)

/-! ### Class names -/

/-- A name of small letters, digits, underscores and slashes. -/
def Lettered (name : String) : Prop :=
  ∀ c ∈ name.toList, Plain c ∨ c = '_' ∨ c = '/'

instance : DecidablePred Lettered :=
  fun name => List.decidableBAll (fun c => Plain c ∨ c = '_' ∨ c = '/') name.toList

theorem Lettered.segments (h : Lettered name) :
    ∀ segment ∈ name.toList.splitOn '/', Segment segment := by
  intro segment hsegment c hc
  rw [← Text.splitAt_eq_splitOn] at hsegment
  obtain ⟨hm, hne⟩ := Text.mem_of_mem_splitAt hsegment hc
  rcases h c hm with hplain | hunderscore | hslash
  · exact Or.inl hplain
  · exact Or.inr hunderscore
  · exact absurd hslash hne

/-- The parts of the class name are the segments, each written as a constant. -/
theorem splitScope_camelize (h : Lettered name) : Text.splitScope (camelize name).toList =
    (name.toList.splitOn '/').map camelizeSegment := by
  have hcolon : ∀ part ∈ (name.toList.splitOn '/').map camelizeSegment, ':' ∉ part := by
    intro part hpart
    obtain ⟨segment, hm, rfl⟩ := List.mem_map.mp hpart
    exact colon_notMem_camelizeSegment (h.segments segment hm)
  have hne : (name.toList.splitOn '/').map camelizeSegment ≠ [] :=
    fun he => List.splitOn_ne_nil _ _ (List.map_eq_nil_iff.mp he)
  rw [camelize, String.toList_ofList, Text.splitAt_eq_splitOn, Text.splitScope_joinScope hne hcolon]

/-- A name spells a class name if and only if all its segments start with a letter. -/
theorem isClassName_camelize_iff (h : Lettered name) : isClassName (camelize name) = true ↔
    ∀ segment ∈ name.toList.splitOn '/', StartsWithLetter segment := by
  rw [isClassName, splitScope_camelize h, List.all_map, List.all_eq_true]
  exact forall₂_congr fun segment hm =>
    isConstant_iff.trans (constant_camelizeSegment_iff (h.segments segment hm))

/-- The parts of a class name that is spelled are the segments, one by one. -/
theorem renders_camelize (h : Lettered name) (hclass : isClassName (camelize name) = true) :
    List.Forall₂ Renders (name.toList.splitOn '/') (Text.splitScope (camelize name).toList) := by
  rw [splitScope_camelize h, List.forall₂_map_right_iff, List.forall₂_same]
  intro segment hm
  have hsegment := h.segments segment hm
  exact ⟨(constant_camelizeSegment_iff hsegment).mpr ((isClassName_camelize_iff h).mp hclass _ hm),
    map_toLower_camelizeSegment hsegment⟩

end Intake.ClassName
