import Intake.Proofs.Calendar.Number
import Intake.Proofs.Text.Letter
import Intake.Proofs.Text.Trim
import Intake.Settings
import Mathlib.Data.List.Forall2

/-!
# The spellings of zones

`Spells` is the grammar of zones, without the blanks around them: a word for UTC, or a sign with
hours and minutes (`Amount`).  A text is read if and only if it is in this grammar, and as the
seconds that it spells (`read?_eq_some_iff`); any other text is refused: `readZone_exact`.
-/

namespace Intake.Zone

open Calendar (Offset padded)

/-- A text is a word, each of its letters small or capital. -/
def SpellsWord (word text : List Char) : Prop :=
  List.Forall₂ (fun c letter => c = letter ∨ c = letter.toUpper) text word

/-- Two ASCII digits stand for a number up to a greatest one. -/
def Pair (greatest n : Nat) (text : List Char) : Prop :=
  n ≤ greatest ∧ ∃ a b, text = [a, b] ∧ a.isDigit = true ∧ b.isDigit = true ∧
    n = 10 * digitValue a + digitValue b

/-- What stands after the hours: nothing, or minutes, with or without a colon before them. -/
inductive Minutes : Nat → List Char → Prop where
  | absent : Minutes 0 []
  | joined {n : Nat} {text : List Char} (h : Pair 59 n text) : Minutes n text
  | apart {n : Nat} {text : List Char} (h : Pair 59 n text) : Minutes n (':' :: text)

/-- Hours, and minutes if any, are a number of seconds. -/
def Amount (seconds : Nat) (text : List Char) : Prop :=
  ∃ hours minutes hourText minuteText, Pair 23 hours hourText ∧ Minutes minutes minuteText ∧
    text = hourText ++ minuteText ∧ seconds = hours * 3600 + minutes * 60

/-- The grammar of zones, each with its seconds east of UTC. -/
inductive Spells : List Char → Int → Prop where
  | utc {word : String} {text : List Char} (mem : word ∈ ["utc", "z", "gmt"])
      (h : SpellsWord word.toList text) : Spells text 0
  | east {n : Nat} {text : List Char} (h : Amount n text) : Spells ('+' :: text) n
  | west {n : Nat} {text : List Char} (h : Amount n text) : Spells ('-' :: text) (-n)

variable {s : String} {n : Nat} {text : List Char} {seconds : Int} {offset : Offset}

/-! ### Hours and minutes -/

theorem digitsValue_pair (a b : Char) : digitsValue [a, b] = 10 * digitValue a + digitValue b := by
  simp [digitsValue]

theorem pair?_eq_some_iff {greatest : Nat} {a b : Char} :
    pair? greatest a b = some n ↔ Pair greatest n [a, b] := by
  rw [pair?, digitsValue_pair]
  constructor
  · intro h
    split at h
    · next hdigits =>
      rw [Bool.and_eq_true, Bool.and_eq_true, decide_eq_true_eq] at hdigits
      obtain ⟨⟨ha, hb⟩, hle⟩ := hdigits
      rw [← Option.some.inj h]
      exact ⟨hle, a, b, rfl, ha, hb, rfl⟩
    · exact absurd h (by simp)
  · rintro ⟨hle, c, d, he, hc, hd, rfl⟩
    simp only [List.cons.injEq, and_true] at he
    obtain ⟨rfl, rfl⟩ := he
    rw [hc, hd, decide_eq_true hle]
    rfl

theorem Pair.exists_chars {greatest : Nat} (h : Pair greatest n text) :
    ∃ a b, text = [a, b] ∧ pair? greatest a b = some n := by
  obtain ⟨a, b, rfl, hab⟩ := h.2
  exact ⟨a, b, rfl, pair?_eq_some_iff.mpr ⟨h.1, a, b, rfl, hab⟩⟩

theorem Pair.of_lt {greatest : Nat} (hle : n ≤ greatest) (hgreatest : greatest < 100) :
    Pair greatest n (padded 2 n) := by
  have hlength : (padded 2 n).length = 2 := Calendar.length_padded (by decide) (by omega)
  obtain ⟨a, b, hab⟩ := List.length_eq_two.mp hlength
  have hdigit : ∀ c ∈ [a, b], c.isDigit = true := by
    rw [← hab]
    exact fun c => Calendar.isDigit_of_mem_padded
  refine ⟨hle, a, b, hab, hdigit a (by simp), hdigit b (by simp), ?_⟩
  rw [← digitsValue_pair, ← hab, Calendar.digitsValue_padded]

theorem minutes?_eq_some_iff : minutes? text = some n ↔ Minutes n text := by
  constructor
  · intro h
    unfold minutes? at h
    split at h
    · rw [← Option.some.inj h]
      exact .absent
    · exact .joined (pair?_eq_some_iff.mp h)
    · exact .apart (pair?_eq_some_iff.mp h)
    · exact absurd h (by simp)
  · intro h
    cases h with
    | absent => rfl
    | joined h =>
      obtain ⟨a, b, rfl, hpair⟩ := h.exists_chars
      exact hpair
    | apart h =>
      obtain ⟨a, b, rfl, hpair⟩ := h.exists_chars
      exact hpair

theorem seconds?_eq_some_iff : seconds? text = some n ↔ Amount n text := by
  constructor
  · intro h
    unfold seconds? at h
    split at h
    · next a b rest =>
      obtain ⟨hours, hhours, h⟩ := Option.bind_eq_some_iff.mp h
      obtain ⟨minutes, hminutes, h⟩ := Option.bind_eq_some_iff.mp h
      rw [← Option.some.inj h]
      exact ⟨hours, minutes, [a, b], rest, pair?_eq_some_iff.mp hhours,
        minutes?_eq_some_iff.mp hminutes, rfl, rfl⟩
    · exact absurd h (by simp)
  · rintro ⟨hours, minutes, hourText, minuteText, hhours, hminutes, rfl, rfl⟩
    obtain ⟨a, b, rfl, hpair⟩ := hhours.exists_chars
    simp [seconds?, hpair, minutes?_eq_some_iff.mpr hminutes]

theorem Minutes.le (h : Minutes n text) : n ≤ 59 := by
  cases h with
  | absent => exact Nat.zero_le _
  | joined h => exact h.1
  | apart h => exact h.1

theorem Amount.lt (h : Amount n text) : n < 86400 := by
  obtain ⟨hours, minutes, _, _, hhours, hminutes, -, rfl⟩ := h
  have hours_le := hhours.1
  have minutes_le := hminutes.le
  omega

/-! ### Words -/

/-- The small letters that a character may be read as. -/
theorem toLower_eq_iff {c letter : Char} (h : letter.isLower = true) :
    c.toLower = letter ↔ c = letter ∨ c = letter.toUpper := by
  constructor
  · rintro rfl
    cases hupper : c.isUpper with
    | true =>
      have cased := Text.cased_of_isAlphanum (Text.isAlphanum_of_isUpper hupper)
      exact Or.inr (cased.toUpper_toLower hupper).symm
    | false => exact Or.inl (Text.toLower_of_not_isUpper hupper).symm
  · have hletter : letter.toLower = letter :=
      Text.toLower_of_not_isUpper (Text.not_isUpper_of_isLower h)
    rintro (rfl | rfl)
    · exact hletter
    · rw [(Text.cased_of_isAlphanum (Text.isAlphanum_of_isLower h)).toLower_toUpper, hletter]

theorem map_toLower_eq_iff {word : List Char} (h : ∀ letter ∈ word, letter.isLower = true) :
    text.map Char.toLower = word ↔ SpellsWord word text := by
  rw [SpellsWord, ← List.forall₂_eq_eq_eq, List.forall₂_map_left_iff]
  induction word generalizing text with
  | nil => simp
  | cons letter word ih =>
    cases text with
    | nil => simp
    | cons c text =>
      rw [List.forall₂_cons, List.forall₂_cons, toLower_eq_iff (h letter List.mem_cons_self),
        ih fun other ho => h other (List.mem_cons_of_mem _ ho)]

/-- The words for UTC, as they are compared. -/
theorem contains_lowerAscii_iff {zone : String} :
    ["utc", "z", "gmt"].contains (Text.lowerAscii zone) = true ↔
      ∃ word ∈ ["utc", "z", "gmt"], SpellsWord word.toList zone.toList := by
  have hlower : ∀ word ∈ ["utc", "z", "gmt"], ∀ letter ∈ word.toList, letter.isLower = true := by
    simp
  have hword : ∀ word ∈ ["utc", "z", "gmt"],
      (Text.lowerAscii zone = word ↔ SpellsWord word.toList zone.toList) := by
    intro word hm
    rw [← map_toLower_eq_iff (hlower word hm), ← String.toList_inj, Text.lowerAscii,
      String.toList_map]
  rw [List.contains_iff_mem]
  constructor
  · intro h
    exact ⟨_, h, (hword _ h).mp rfl⟩
  · rintro ⟨word, hm, h⟩
    rw [(hword word hm).mpr h]
    exact hm

/-- What starts with a sign is no word. -/
theorem not_spellsWord_of_sign {sign : Char} (hsign : sign ∈ ['+', '-']) :
    ∀ word ∈ ["utc", "z", "gmt"], ¬SpellsWord word.toList (sign :: text) := by
  have hfirst : ∀ sign ∈ ['+', '-'], ∀ word ∈ ["utc", "z", "gmt"], ∀ letter ∈ word.toList,
      ¬(sign = letter ∨ sign = letter.toUpper) := by simp
  intro word hword h
  obtain ⟨letter, rest, hletter, -, he⟩ := List.forall₂_cons_left_iff.mp h
  exact hfirst sign hsign word hword letter (he ▸ List.mem_cons_self) hletter

/-! ### Zones -/

theorem Spells.inRange (h : Spells text seconds) : -86400 < seconds ∧ seconds < 86400 := by
  cases h with
  | utc mem h => decide
  | east h =>
    have hlt := h.lt
    omega
  | west h =>
    have hlt := h.lt
    omega

theorem offset_ofSeconds?_eq_some_iff :
    Offset.ofSeconds? seconds = some offset ↔ offset.seconds = seconds := by
  constructor
  · intro h
    rw [Offset.ofSeconds?] at h
    split at h
    · rw [← Option.some.inj h]
    · exact absurd h (by simp)
  · rintro rfl
    exact dif_pos offset.inRange

theorem seconds?_bind_eq_some_iff {signed : Nat → Int} :
    ((seconds? text).bind fun n => Offset.ofSeconds? (signed n)) = some offset ↔
      ∃ n, Amount n text ∧ offset.seconds = signed n := by
  simp only [Option.bind_eq_some_iff, seconds?_eq_some_iff, offset_ofSeconds?_eq_some_iff]

theorem spells_of_signed? (h : signed? text = some offset) : Spells text offset.seconds := by
  unfold signed? at h
  split at h
  · obtain ⟨n, hamount, hseconds⟩ := seconds?_bind_eq_some_iff.mp h
    rw [hseconds]
    exact .east hamount
  · obtain ⟨n, hamount, hseconds⟩ := seconds?_bind_eq_some_iff.mp h
    rw [hseconds]
    exact .west hamount
  · exact absurd h (by simp)

theorem read?_of_word {word : String} (mem : word ∈ ["utc", "z", "gmt"])
    (h : SpellsWord word.toList (Text.trim s).toList) : read? s = some .utc :=
  if_pos (contains_lowerAscii_iff.mpr ⟨word, mem, h⟩)

theorem read?_of_sign {sign : Char} (hsign : sign ∈ ['+', '-'])
    (h : (Text.trim s).toList = sign :: text) : read? s = signed? (sign :: text) := by
  have hword : ¬["utc", "z", "gmt"].contains (Text.lowerAscii (Text.trim s)) = true := by
    rw [contains_lowerAscii_iff, h]
    rintro ⟨word, hm, hspells⟩
    exact not_spellsWord_of_sign hsign word hm hspells
  rw [← h]
  exact if_neg hword

theorem spells_of_read? (h : read? s = some offset) :
    Spells (Text.trim s).toList offset.seconds := by
  by_cases hword : ["utc", "z", "gmt"].contains (Text.lowerAscii (Text.trim s)) = true
  · obtain ⟨word, hm, hspells⟩ := contains_lowerAscii_iff.mp hword
    rw [read?_of_word hm hspells] at h
    rw [← Option.some.inj h]
    exact .utc hm hspells
  · have hsigned : read? s = signed? (Text.trim s).toList := if_neg hword
    exact spells_of_signed? (hsigned ▸ h)

theorem read?_of_spells (htext : (Text.trim s).toList = text) (hseconds : offset.seconds = seconds)
    (h : Spells text seconds) : read? s = some offset := by
  cases h with
  | utc mem h =>
    have hoffset : Offset.ofSeconds? 0 = some offset := offset_ofSeconds?_eq_some_iff.mpr hseconds
    rw [read?_of_word mem (by rw [htext]; exact h), ← hoffset]
    rfl
  | east h =>
    rw [read?_of_sign (by decide) htext]
    exact seconds?_bind_eq_some_iff.mpr ⟨_, h, hseconds⟩
  | west h =>
    rw [read?_of_sign (by decide) htext]
    exact seconds?_bind_eq_some_iff.mpr ⟨_, h, hseconds⟩

/-- A text is read if and only if it spells a zone. -/
theorem read?_eq_some_iff : read? s = some offset ↔ Spells (Text.trim s).toList offset.seconds :=
  ⟨spells_of_read?, read?_of_spells rfl rfl⟩

/-- The blanks around a zone may be taken off before it is read. -/
theorem read?_trim (s : String) : read? (Text.trim s) = read? s := by
  rw [read?, read?, Text.trim_of_trimmed (Text.trimmed_trim s)]

/-! ### The texts of offsets -/

theorem Pair.isBlank {greatest : Nat} (h : Pair greatest n text) :
    ∀ c ∈ text, Text.isBlank c = false := by
  obtain ⟨-, a, b, rfl, ha, hb, -⟩ := h
  intro c hc
  rcases List.mem_pair.mp hc with rfl | rfl
  · exact Text.isBlank_of_isDigit ha
  · exact Text.isBlank_of_isDigit hb

theorem Minutes.isBlank (h : Minutes n text) : ∀ c ∈ text, Text.isBlank c = false := by
  cases h with
  | absent => exact List.forall_mem_nil _
  | joined h => exact h.isBlank
  | apart h => exact List.forall_mem_cons.mpr ⟨by decide, h.isBlank⟩

theorem Amount.isBlank (h : Amount n text) : ∀ c ∈ text, Text.isBlank c = false := by
  obtain ⟨hours, minutes, hourText, minuteText, hhours, hminutes, rfl, -⟩ := h
  exact List.forall_mem_append.mpr ⟨hhours.isBlank, hminutes.isBlank⟩

/-- The sign of an offset in front of its amount. -/
theorem read?_of_amount (h : Amount offset.seconds.natAbs text) :
    read? (String.ofList ((if offset.seconds < 0 then '-' else '+') :: text)) = some offset := by
  have hsign : ∀ sign ∈ ['+', '-'], (Text.trim (String.ofList (sign :: text))).toList =
      sign :: text := by
    intro sign hsign
    have hblank : Text.isBlank sign = false := by
      rcases List.mem_pair.mp hsign with rfl | rfl <;> decide
    rw [Text.trim, String.toList_ofList, String.toList_ofList]
    exact Text.trimChars_eq_self (List.forall_mem_cons.mpr ⟨hblank, h.isBlank⟩)
  split
  · exact read?_of_spells (hsign '-' (by decide)) (by omega) (.west h)
  · exact read?_of_spells (hsign '+' (by decide)) (by omega) (.east h)

theorem amount_of_minutes {minutes : Nat} (hlt : minutes < 1440)
    (h : Minutes (minutes % 60) text) :
    Amount (minutes * 60) (padded 2 (minutes / 60) ++ text) :=
  ⟨minutes / 60, minutes % 60, _, text, .of_lt (by omega) (by decide), h, rfl, by omega⟩

theorem colon_notMem_padded (width n : Nat) : ':' ∉ padded width n :=
  fun h => absurd (Calendar.isDigit_of_mem_padded h) (by decide)

/-- An offset of whole minutes is read from its text, with the colon and without it. -/
theorem read?_text (hminutes : offset.seconds % 60 = 0) :
    read? (String.ofList offset.text) = some offset ∧
      read? (String.ofList (offset.text.erase ':')) = some offset := by
  have hrange := offset.inRange
  obtain ⟨minutes, hdef⟩ : ∃ minutes, minutes = (offset.seconds.natAbs + 30) / 60 := ⟨_, rfl⟩
  have hseconds : offset.seconds.natAbs = minutes * 60 := by omega
  have hlt : minutes < 1440 := by omega
  have hpair : Pair 59 (minutes % 60) (padded 2 (minutes % 60)) := .of_lt (by omega) (by decide)
  have hsign : ':' ∉ (if offset.seconds < 0 then '-' else '+') :: padded 2 (minutes / 60) := by
    rw [List.mem_cons, not_or]
    refine ⟨?_, colon_notMem_padded 2 _⟩
    split <;> decide
  rw [Offset.text, ← hdef, List.erase_append_right _ hsign, List.erase_cons_head,
    List.cons_append, List.cons_append]
  refine ⟨read?_of_amount ?_, read?_of_amount ?_⟩
  · rw [hseconds]
    exact amount_of_minutes hlt (.apart hpair)
  · rw [hseconds]
    exact amount_of_minutes hlt (.joined hpair)

end Intake.Zone

namespace Intake.Settings

/-- **Which texts are zones, and which offsets they are.**  Any other text is told in the error,
without the blanks around it. -/
theorem readZone_exact :
    (∀ s offset, readZone s = .ok offset ↔ Zone.Spells (Text.trim s).toList offset.seconds) ∧
    (∀ s error, readZone s = .error error ↔
      (¬∃ seconds, Zone.Spells (Text.trim s).toList seconds) ∧ error = .timeZone (Text.trim s)) ∧
    (∀ text seconds, Zone.Spells text seconds → -86400 < seconds ∧ seconds < 86400) ∧
    ∀ offset : Calendar.Offset, offset.seconds % 60 = 0 →
      readZone (String.ofList offset.text) = .ok offset ∧
        readZone (String.ofList (offset.text.erase ':')) = .ok offset := by
  have hok : ∀ s offset, readZone s = .ok offset ↔ Zone.read? s = some offset := by
    intro s offset
    rw [readZone]
    cases Zone.read? s with
    | some other => simp
    | none => simp
  refine ⟨fun s offset => (hok s offset).trans Zone.read?_eq_some_iff, fun s error => ?_,
    fun text seconds h => h.inRange, fun offset hminutes => ?_⟩
  · have hnone : (¬∃ seconds, Zone.Spells (Text.trim s).toList seconds) ↔ Zone.read? s = none := by
      rw [Option.eq_none_iff_forall_ne_some, not_exists]
      constructor
      · intro h offset hread
        exact h _ (Zone.spells_of_read? hread)
      · intro h seconds hspells
        exact h ⟨seconds, hspells.inRange⟩ (Zone.read?_of_spells rfl rfl hspells)
    rw [hnone, readZone]
    cases Zone.read? s with
    | some offset => simp
    | none => simp [eq_comm]
  · have htext := Zone.read?_text hminutes
    exact ⟨(hok _ _).mpr htext.1, (hok _ _).mpr htext.2⟩

theorem readZone_exact_spellings :
    (20700 : Int) % 60 = 0 ∧ readZone "+05:45" = .ok ⟨20700, by decide⟩ ∧
      readZone "+0545" = .ok ⟨20700, by decide⟩ ∧
      readZone " gMt\n" = .ok .utc ∧ Zone.Spells (Text.trim " gMt\n").toList 0 ∧
      readZone "+٠٥:٤٥ " = .error (.timeZone "+٠٥:٤٥") ∧
      ¬∃ seconds, Zone.Spells (Text.trim "+٠٥:٤٥ ").toList seconds := by
  have hutc : readZone " gMt\n" = .ok .utc := by
    have hread : Zone.read? " gMt\n" = some .utc := by decide +kernel
    rw [readZone, hread]
  have hdigits : readZone "+٠٥:٤٥ " = .error (.timeZone "+٠٥:٤٥") := by
    have hread : Zone.read? "+٠٥:٤٥ " = none := by decide +kernel
    have htrim : Text.trim "+٠٥:٤٥ " = "+٠٥:٤٥" := by decide +kernel
    rw [readZone, hread, htrim]
  obtain ⟨hspells, herror, -, htext⟩ := readZone_exact
  obtain ⟨hcolon, hplain⟩ := htext ⟨20700, by decide⟩ (by decide)
  exact ⟨by decide, hcolon, hplain, hutc, (hspells _ _).mp hutc, hdigits,
    ((herror _ _).mp hdigits).1⟩

end Intake.Settings
