import Intake.Proofs.Calendar.Moment
import Intake.Proofs.Cast.Number

/-!
# Casts of a date picker's hashes

A date picker gives a date and a time as a hash with the keys 1 to 6.  `Picks` says which parts such
a hash has, and that they are those of a real moment.  These hashes are cast to the moment, in UTC,
and no others: `cast_dateTime_picker`.
-/

namespace Intake

namespace Scalar

/-! ### The parts of a date -/

/-- A value is an integer, or a text that spells one of 64 bits: a sign, which may be missing, and
digits, blanks around them left aside. -/
inductive IsPart : Value → Int → Prop where
  | integer (n : Int64) : IsPart (.integer n) n.toInt
  | text {s : String} {negative : Bool} {sign digits : List Char}
      (hasSign : Numeral.Sign negative sign) (nonempty : digits ≠ [])
      (areDigits : ∀ c ∈ digits, c.isDigit = true)
      (spelled : Text.trimChars s.toList = sign ++ digits)
      (inRange : -2 ^ 63 ≤ Numeral.signed negative digits ∧
        Numeral.signed negative digits ≤ 2 ^ 63 - 1) :
      IsPart (.string s) (Numeral.signed negative digits)

def HasPart (entries : Entries Value) (key : String) (n : Int) : Prop :=
  ∃ value, entries.get? key = some value ∧ IsPart value n

/-- A key has an integer, which is zero where the key is absent or has nil. -/
def HasTimePart (entries : Entries Value) (key : String) (n : Int) : Prop :=
  HasPart entries key n ∨ n = 0 ∧ (entries.get? key = none ∨ entries.get? key = some .nil)

/-- A hash has the parts of a date of the calendar and of a time of the day. -/
structure Picks (entries : Entries Value) (year : Int) (month day hour minute second : Nat) :
    Prop where
  hasYear : HasPart entries "1" year
  hasMonth : HasPart entries "2" month
  hasDay : HasPart entries "3" day
  isDate : Calendar.IsDate year month day
  hasHour : HasTimePart entries "4" hour
  hasMinute : HasTimePart entries "5" minute
  hasSecond : HasTimePart entries "6" second
  hour_le : hour ≤ 23
  minute_le : minute ≤ 59
  second_le : second ≤ 59

variable {entries other : Entries Value} {key : String} {value : Value} {n : Int}
variable {year : Int} {month day hour minute second : Nat}

def Picks.reading (picks : Picks entries year month day hour minute second) : Calendar.Reading :=
  have hour_le := picks.hour_le
  have minute_le := picks.minute_le
  have second_le := picks.second_le
  ⟨⟨year, month, day, picks.isDate⟩,
    { second := hour * 3600 + minute * 60 + second, nano := 0 }⟩

theorem part?_eq_some_iff : part? entries key = some n ↔ HasPart entries key n := by
  unfold part? HasPart
  constructor
  · intro h
    split at h
    · next k hget =>
      rw [← Option.some.inj h]
      exact ⟨_, hget, .integer k⟩
    · next s hget =>
      obtain ⟨m, hm, hk⟩ := Option.bind_eq_some_iff.mp h
      obtain ⟨k, hint, rfl⟩ := Option.map_eq_some_iff.mp hk
      obtain ⟨negative, sign, digits, hsign, hne, hdigits, hspelled, rfl⟩ :=
        Numeral.exists_sign_of_plainInteger? hm
      rw [int64?_eq_some_iff] at hint
      rw [hint]
      have hle := k.le_toInt
      have hlt := k.toInt_lt
      exact ⟨_, hget, .text hsign hne hdigits hspelled (by omega)⟩
    · exact absurd h (by simp)
  · rintro ⟨value, hget, hpart⟩
    cases hpart with
    | integer k => rw [hget]
    | @text s negative sign digits hsign hne hdigits hspelled hrange =>
      have hk : int64? (Numeral.signed negative digits) =
          some (Int64.ofInt (Numeral.signed negative digits)) := by
        rw [int64?_eq_some_iff]
        exact Int64.toInt_ofInt_of_le hrange.1 (by omega)
      rw [hget]
      dsimp only
      rw [hspelled, Numeral.plainInteger?_eq_some hsign hne hdigits, Option.bind_some, hk,
        Option.map_some, int64?_eq_some_iff.mp hk]

theorem not_hasPart_of_nil (hget : entries.get? key = some .nil) : ¬HasPart entries key n := by
  rintro ⟨value, hvalue, hpart⟩
  rw [hget] at hvalue
  obtain rfl := Option.some.inj hvalue
  cases hpart

theorem not_hasPart_of_none (hget : entries.get? key = none) : ¬HasPart entries key n := by
  rintro ⟨value, hvalue, -⟩
  rw [hget] at hvalue
  exact absurd hvalue (by simp)

theorem timePart?_eq_some_iff : timePart? entries key = some n ↔ HasTimePart entries key n := by
  unfold timePart? HasTimePart
  split
  · next hget => simp [hget, not_hasPart_of_none hget, eq_comm]
  · next hget => simp [hget, not_hasPart_of_nil hget, eq_comm]
  · next value hnil hget =>
    rw [part?_eq_some_iff]
    constructor
    · exact Or.inl
    · rintro (hpart | ⟨-, hnone | hsome⟩)
      · exact hpart
      · exact absurd (hget.symm.trans hnone) (by simp)
      · exact absurd (Option.some.inj (hget.symm.trans hsome)) hnil

theorem natural?_eq_some_iff {k : Nat} : natural? n = some k ↔ n = k := by
  unfold natural?
  split
  · next hnonneg =>
    rw [Option.some.injEq]
    omega
  · next hneg =>
    refine iff_of_false (by simp) ?_
    omega

/-- **A date picker's hash is read when it has the parts of a moment**, as the reading with these
parts. -/
theorem grouped?_eq_some_iff {reading : Calendar.Reading} :
    grouped? entries = some reading ↔
      ∃ year month day hour minute second,
        ∃ picks : Picks entries year month day hour minute second, reading = picks.reading := by
  simp only [grouped?, Option.bind_eq_bind, Option.bind_eq_some_iff, part?_eq_some_iff,
    timePart?_eq_some_iff, natural?_eq_some_iff, Calendar.Date.ofCivil?_eq_some_iff,
    Calendar.Clock.ofParts?_eq_some_iff]
  constructor
  · rintro ⟨year, hyear, _, hmonth, month, rfl, _, hday, day, rfl, date, ⟨rfl, rfl, rfl⟩,
      _, hhour, hour, rfl, _, hminute, minute, rfl, _, hsecond, second, rfl, clock,
      ⟨⟨hhour_lt, hminute_lt, hsecond_lt, -⟩, hclock, hnano⟩, hreading⟩
    obtain rfl := Option.some.inj hreading
    have picks : Picks entries date.year date.month date.day hour minute second :=
      ⟨hyear, hmonth, hday, date.isDate, hhour, hminute, hsecond, by omega, by omega, by omega⟩
    refine ⟨_, _, _, _, _, _, picks, ?_⟩
    exact congrArg (Calendar.Reading.mk date) (Calendar.Clock.ext hclock hnano)
  · rintro ⟨year, month, day, hour, minute, second, picks, rfl⟩
    have hhour := picks.hour_le
    have hminute := picks.minute_le
    have hsecond := picks.second_le
    exact ⟨year, picks.hasYear, _, picks.hasMonth, month, rfl, _, picks.hasDay, day, rfl,
      picks.reading.date, ⟨rfl, rfl, rfl⟩, _, picks.hasHour, hour, rfl, _, picks.hasMinute, minute,
      rfl, _, picks.hasSecond, second, rfl, picks.reading.clock,
      ⟨⟨by omega, by omega, by omega, by omega⟩, rfl, rfl⟩, rfl⟩

/-! ### Other keys -/

def pickerKeys : List String :=
  ["1", "2", "3", "4", "5", "6"]

theorem hasPart_congr (h : other.get? key = entries.get? key) :
    HasPart other key n ↔ HasPart entries key n := by
  rw [HasPart, HasPart, h]

theorem hasTimePart_congr (h : other.get? key = entries.get? key) :
    HasTimePart other key n ↔ HasTimePart entries key n := by
  rw [HasTimePart, HasTimePart, hasPart_congr h, h]

theorem Picks.congr (h : ∀ key ∈ pickerKeys, other.get? key = entries.get? key)
    (picks : Picks entries year month day hour minute second) :
    Picks other year month day hour minute second where
  hasYear := (hasPart_congr (h _ (by decide))).mpr picks.hasYear
  hasMonth := (hasPart_congr (h _ (by decide))).mpr picks.hasMonth
  hasDay := (hasPart_congr (h _ (by decide))).mpr picks.hasDay
  isDate := picks.isDate
  hasHour := (hasTimePart_congr (h _ (by decide))).mpr picks.hasHour
  hasMinute := (hasTimePart_congr (h _ (by decide))).mpr picks.hasMinute
  hasSecond := (hasTimePart_congr (h _ (by decide))).mpr picks.hasSecond
  hour_le := picks.hour_le
  minute_le := picks.minute_le
  second_le := picks.second_le

/-! ### What is read -/

theorem calendar?_hash {layout : Option String} (hpicker : entries.contains "1" = true) :
    calendar? layout (.hash entries) = (grouped? entries).map fun reading => ⟨reading, none⟩ :=
  if_pos hpicker

theorem readDateTime?_hash {layout : Option String} (hpicker : entries.contains "1" = true) :
    readDateTime? layout (.hash entries) =
      (grouped? entries).map fun reading => ⟨reading, .utc⟩ := by
  have hreads : readDateTime? layout (.hash entries) =
      (calendar? layout (.hash entries)).bind (·.inZone? .utc) := rfl
  rw [hreads, calendar?_hash hpicker]
  cases grouped? entries with
  | none => rfl
  | some reading => exact Calendar.Moment.ofLocal?_utc reading

end Scalar

namespace Filter

open Scalar (Picks HasPart HasTimePart pickerKeys)

variable {head : Head} {layout : Option String} {ctx : Context} {drawn : Nat}
variable {entries other : Entries Value} {result : Value}

theorem cast_picker_eq_ok_iff (hpicker : entries.contains "1" = true) :
    (scalar head (.dateTime layout)).cast ctx drawn (.hash entries) = .ok result ↔
      ∃ year month day hour minute second,
        ∃ picks : Picks entries year month day hour minute second,
          result = .dateTime ⟨picks.reading, .utc⟩ := by
  rw [cast_scalar_eq_ok_iff rfl (by simp), Scalar.readDateTime?_hash hpicker]
  simp only [Option.map_eq_some_iff, Scalar.grouped?_eq_some_iff]
  constructor
  · rintro ⟨_, ⟨_, ⟨year, month, day, hour, minute, second, picks, rfl⟩, rfl⟩, rfl⟩
    exact ⟨year, month, day, hour, minute, second, picks, rfl⟩
  · rintro ⟨year, month, day, hour, minute, second, picks, rfl⟩
    exact ⟨_, ⟨_, ⟨year, month, day, hour, minute, second, picks, rfl⟩, rfl⟩, rfl⟩

theorem cast_picker_eq_error_iff {error : CastError} (hpicker : entries.contains "1" = true) :
    (scalar head (.dateTime layout)).cast ctx drawn (.hash entries) = .error error ↔
      (∀ year month day hour minute second,
        ¬Picks entries year month day hour minute second) ∧
          error = .invalid head.name (.hash entries) := by
  rw [cast_scalar_eq_error_iff rfl (by simp), Scalar.readDateTime?_hash hpicker,
    Option.map_eq_none_iff, Option.eq_none_iff_forall_ne_some]
  simp only [Ne, Scalar.grouped?_eq_some_iff]
  refine and_congr_left fun _ => ?_
  constructor
  · intro hnone year month day hour minute second picks
    exact hnone picks.reading ⟨year, month, day, hour, minute, second, picks, rfl⟩
  · rintro hnone reading ⟨year, month, day, hour, minute, second, picks, -⟩
    exact hnone year month day hour minute second picks

/-- **A date picker's hash is cast to a date-time when its parts are those of a real moment**: the
moment with these parts, in UTC and on the full second.  Otherwise it is invalid.  Other keys make
no difference. -/
theorem cast_dateTime_picker (head : Head) (layout : Option String) (ctx : Context) (drawn : Nat)
    {entries : Entries Value} (hpicker : entries.contains "1" = true) :
    (∀ result, (scalar head (.dateTime layout)).cast ctx drawn (.hash entries) = .ok result ↔
      ∃ year month day hour minute second,
        ∃ picks : Picks entries year month day hour minute second,
          result = .dateTime ⟨picks.reading, .utc⟩) ∧
    (∀ error, (scalar head (.dateTime layout)).cast ctx drawn (.hash entries) = .error error ↔
      (∀ year month day hour minute second,
        ¬Picks entries year month day hour minute second) ∧
          error = .invalid head.name (.hash entries)) ∧
    ∀ other : Entries Value, (∀ key ∈ pickerKeys, other.get? key = entries.get? key) →
      ∀ result, (scalar head (.dateTime layout)).cast ctx drawn (.hash other) = .ok result ↔
        (scalar head (.dateTime layout)).cast ctx drawn (.hash entries) = .ok result := by
  refine ⟨fun result => cast_picker_eq_ok_iff hpicker,
    fun error => cast_picker_eq_error_iff hpicker, fun other hsame result => ?_⟩
  have hother : other.contains "1" = true := by
    rw [Entries.contains, hsame "1" (by decide)]
    exact hpicker
  rw [cast_picker_eq_ok_iff hpicker, cast_picker_eq_ok_iff hother]
  constructor
  · rintro ⟨year, month, day, hour, minute, second, picks, rfl⟩
    exact ⟨year, month, day, hour, minute, second,
      picks.congr fun key hkey => (hsame key hkey).symm, rfl⟩
  · rintro ⟨year, month, day, hour, minute, second, picks, rfl⟩
    exact ⟨year, month, day, hour, minute, second, picks.congr hsame, rfl⟩

/-- The last minute of a leap day, with parts of every sort. -/
def leapDayParts : Entries Value :=
  [("1", .integer 2024), ("2", .string " +02 "), ("3", .string "29"), ("4", .integer 23),
    ("5", .string "59"), ("6", .nil), ("zone", .string "Z")]

def leapDayReading : Calendar.Reading :=
  ⟨⟨2024, 2, 29, by decide⟩,
    { Calendar.Clock.midnight with second := 86340, second_lt := by decide }⟩

theorem leapDayParts_picks : Picks leapDayParts 2024 2 29 23 59 0 where
  hasYear := Scalar.part?_eq_some_iff.mp (by decide +kernel)
  hasMonth := Scalar.part?_eq_some_iff.mp (by decide +kernel)
  hasDay := Scalar.part?_eq_some_iff.mp (by decide +kernel)
  isDate := by decide
  hasHour := Scalar.timePart?_eq_some_iff.mp (by decide +kernel)
  hasMinute := Scalar.timePart?_eq_some_iff.mp (by decide +kernel)
  hasSecond := Scalar.timePart?_eq_some_iff.mp (by decide +kernel)
  hour_le := by decide
  minute_le := by decide
  second_le := by decide

theorem cast_dateTime_picker_leapDay :
    leapDayParts.contains "1" = true ∧
    (scalar ⟨"at", "date_time", {}⟩ (.dateTime none)).cast {} 0 (.hash leapDayParts) =
      .ok (.dateTime ⟨leapDayReading, .utc⟩) := by
  have hpicker : leapDayParts.contains "1" = true := by decide
  have hcast := cast_dateTime_picker ⟨"at", "date_time", {}⟩ none {} 0 hpicker
  exact ⟨hpicker, (hcast.1 _).mpr ⟨2024, 2, 29, 23, 59, 0, leapDayParts_picks, rfl⟩⟩

end Filter

end Intake
