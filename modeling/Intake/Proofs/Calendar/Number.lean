import Intake.Calendar.Parsed
import Intake.Calendar.Text
import Intake.Proofs.Numeral
import Intake.Proofs.Text.Trim
import Mathlib.Data.Nat.Digits.Defs

/-!
# Numbers in the texts of dates and moments

Numbers are written with zeros in front up to a width.  Of a text that starts with such a number a
reader takes the number and leaves the rest: `takeExactly?_padded` where it knows the width,
`takeDigits?_of_stops` where no digit follows.  Fractions of a second and offsets are built on them.
-/

namespace Intake.Calendar

open Numeral (startsWithDigit)

/-! ### Padded numbers -/

section Padded

variable {width n : Nat}

theorem isDigit_of_mem_padded {c : Char} (h : c ∈ padded width n) : c.isDigit = true := by
  rcases List.mem_append.mp h with hzero | hdigit
  · rw [List.eq_of_mem_replicate hzero]
    rfl
  · exact Nat.isDigit_of_mem_toDigits (by decide) (by decide) hdigit

theorem padded_ne_nil (width n : Nat) : padded width n ≠ [] :=
  List.append_ne_nil_of_right_ne_nil _ Nat.toDigits_ne_nil

theorem digitsValue_replicate (k : Nat) : digitsValue (List.replicate k '0') = 0 := by
  induction k with
  | zero => rfl
  | succ k ih =>
    rw [List.replicate_succ, digitsValue_cons, ih]
    simp [digitValue]

theorem digitsValue_padded (width n : Nat) : digitsValue (padded width n) = n := by
  rw [padded, digitsValue_append, digitsValue_replicate, Nat.zero_mul, Nat.zero_add]
  exact Numeral.digitsValue_toDigits n

theorem length_padded (hwidth : 0 < width) (hn : n < 10 ^ width) :
    (padded width n).length = width := by
  have hle : (decimalDigits n).length ≤ width := Nat.toDigits_length 10 n width hwidth hn
  rw [padded, List.length_append, List.length_replicate]
  omega

theorem startsWithDigit_padded (width n : Nat) (rest : List Char) :
    startsWithDigit (padded width n ++ rest) = true :=
  Numeral.startsWithDigit_append (padded_ne_nil width n) (fun _ => isDigit_of_mem_padded) rest

/-! ### Taking digits -/

variable {digits rest : List Char}

theorem takeWhile_isDigit (hdigits : ∀ c ∈ digits, c.isDigit = true)
    (hstops : startsWithDigit rest = false) : (digits ++ rest).takeWhile Char.isDigit = digits := by
  rw [List.takeWhile_append_of_pos hdigits]
  cases rest with
  | nil => rw [List.takeWhile_nil, List.append_nil]
  | cons c rest =>
    have hc : c.isDigit = false := hstops
    rw [List.takeWhile_cons_of_neg (by simp [hc]), List.append_nil]

theorem dropWhile_isDigit (hstops : startsWithDigit rest = false) :
    rest.dropWhile Char.isDigit = rest := by
  cases rest with
  | nil => rfl
  | cons c rest =>
    have hc : c.isDigit = false := hstops
    rw [List.dropWhile_cons_of_neg (by simp [hc])]

/-- As many digits as the limit says are taken, whatever follows. -/
theorem takeDigits?_length (hne : digits ≠ []) (hdigits : ∀ c ∈ digits, c.isDigit = true)
    (rest : List Char) :
    takeDigits? (some digits.length) (digits ++ rest) = some (digits, rest) := by
  have hrun : ((digits ++ rest).takeWhile Char.isDigit).take digits.length = digits := by
    rw [List.takeWhile_append_of_pos hdigits, List.take_left]
  rw [takeDigits?]
  rw [hrun, if_neg (by simpa using hne), List.drop_left]

/-- All digits are taken where no digit follows. -/
theorem takeDigits?_of_stops {limit : Option Nat} (hne : digits ≠ [])
    (hdigits : ∀ c ∈ digits, c.isDigit = true) (hstops : startsWithDigit rest = false)
    (hlimit : ∀ k ∈ limit, digits.length ≤ k) :
    takeDigits? limit (digits ++ rest) = some (digits, rest) := by
  have hrun := takeWhile_isDigit hdigits hstops
  have hempty : ¬digits.isEmpty = true := by simpa using hne
  unfold takeDigits?
  cases limit with
  | none => simp only [hrun, if_neg hempty, List.drop_left]
  | some k =>
    simp only [hrun, List.take_of_length_le (hlimit k rfl), if_neg hempty, List.drop_left]

theorem takeExactly?_padded (hwidth : 0 < width) (hn : n < 10 ^ width) (rest : List Char) :
    takeExactly? width (padded width n ++ rest) = some (padded width n, rest) := by
  have htake := takeDigits?_length (padded_ne_nil width n) (fun _ => isDigit_of_mem_padded) rest
  rw [length_padded hwidth hn] at htake
  rw [takeExactly?, htake, Option.filter_some, if_pos]
  simp [length_padded hwidth hn]

end Padded

/-! ### Numbers of fields -/

theorem within?_eq_self {least greatest value : Int} (hleast : least ≤ value)
    (hgreatest : value ≤ greatest) : within? least greatest value = some value :=
  if_pos ⟨hleast, hgreatest⟩

namespace Fields

variable {value : Int}

def withYear (fields : Fields) (year : Int) : Fields :=
  { fields with year := some year }

def withMonth (fields : Fields) (month : Int) : Fields :=
  { fields with month := some month }

def withDay (fields : Fields) (day : Int) : Fields :=
  { fields with day := some day }

def withHour (fields : Fields) (hour : Int) : Fields :=
  { fields with halfDay := some (hour / 12), hourOfHalf := some (hour % 12) }

def withMinute (fields : Fields) (minute : Int) : Fields :=
  { fields with minute := some minute }

def withSecond (fields : Fields) (second : Int) : Fields :=
  { fields with second := some second }

/-- No nanoseconds are none that were read. -/
def withNano (fields : Fields) (nano : Nat) : Fields :=
  { fields with nano := if nano = 0 then none else some (nano : Int) }

def withOffset (fields : Fields) (offset : Int) : Fields :=
  { fields with offset := some offset }

variable {fields : Fields}

theorem set?_year (hunset : fields.year = none) (hleast : -0x80000000 ≤ value)
    (hgreatest : value ≤ 0x7fffffff) : fields.set? .year value = some (fields.withYear value) := by
  rw [set?, within?_eq_self hleast hgreatest, hunset]
  rfl

theorem set?_month (hunset : fields.month = none) (hleast : 1 ≤ value) (hgreatest : value ≤ 12) :
    fields.set? .month value = some (fields.withMonth value) := by
  rw [set?, setMonth?, within?_eq_self hleast hgreatest, hunset]
  rfl

theorem set?_day (hunset : fields.day = none) (hleast : 1 ≤ value) (hgreatest : value ≤ 31) :
    fields.set? .day value = some (fields.withDay value) := by
  rw [set?, within?_eq_self hleast hgreatest, hunset]
  rfl

theorem set?_hour (hhalfDay : fields.halfDay = none) (hhour : fields.hourOfHalf = none)
    (hleast : 0 ≤ value) (hgreatest : value ≤ 23) :
    fields.set? .hour value = some (fields.withHour value) := by
  rw [set?, within?_eq_self hleast hgreatest, Option.bind_eq_bind, Option.bind_some, setHour?,
    hhalfDay, hhour]
  rfl

theorem set?_minute (hunset : fields.minute = none) (hleast : 0 ≤ value)
    (hgreatest : value ≤ 59) : fields.set? .minute value = some (fields.withMinute value) := by
  rw [set?, within?_eq_self hleast hgreatest, hunset]
  rfl

theorem set?_second (hunset : fields.second = none) (hleast : 0 ≤ value)
    (hgreatest : value ≤ 60) : fields.set? .second value = some (fields.withSecond value) := by
  rw [set?, within?_eq_self hleast hgreatest, hunset]
  rfl

theorem setNano?_eq {nano : Nat} (hunset : fields.nano = none) (hpos : nano ≠ 0)
    (hlt : nano < 1000000000) : fields.setNano? nano = some (fields.withNano nano) := by
  rw [setNano?, within?_eq_self (by omega) (by omega), hunset, withNano, if_neg hpos]
  rfl

theorem setOffset?_eq (hunset : fields.offset = none) :
    fields.setOffset? value = some (fields.withOffset value) := by
  rw [setOffset?, hunset]
  rfl

end Fields

section Fields

variable {fields : Fields} {field : NumberField} {width n : Nat}

theorem readLiteral?_self (c : Char) (fields : Fields) (rest : List Char) :
    readLiteral? c fields (c :: rest) = some (fields, rest) :=
  if_pos rfl

theorem readExact?_padded {set : Fields} (hset : fields.set? field n = some set)
    (hwidth : 0 < width) (hn : n < 10 ^ width) (rest : List Char) :
    readExact? field width fields (padded width n ++ rest) = some (set, rest) := by
  rw [readExact?, takeExactly?_padded hwidth hn]
  simp only [Option.bind_eq_bind, Option.bind_some, digitsValue_padded, hset]
  rfl

/-- Where a digit stands there is no sign. -/
theorem takeNumber?_of_digit {cs : List Char} (h : startsWithDigit cs = true) :
    takeNumber? field cs =
      (takeDigits? field.width cs).map fun (digits, rest) => (digitsValue digits, rest) := by
  unfold takeNumber?
  split
  · exact absurd h Bool.false_ne_true
  · exact absurd h Bool.false_ne_true
  · rfl

theorem trimStart_of_digit {cs : List Char} (h : startsWithDigit cs = true) :
    Text.trimStart cs = cs := by
  refine Text.trimStart_eq_self fun c hc => ?_
  cases cs with
  | nil => exact absurd hc (by simp)
  | cons d cs =>
    obtain rfl := Option.some.inj hc
    exact Text.isBlank_of_isDigit h

theorem readNumber?_of_takeNumber? {set : Fields} {value : Int} {cs rest : List Char}
    (hset : fields.set? field value = some set) (htrim : Text.trimStart cs = cs)
    (htake : takeNumber? field cs = some (value, rest)) :
    readNumber? field fields cs = some (set, rest) := by
  rw [readNumber?, htrim, htake]
  simp only [Option.bind_eq_bind, Option.bind_some, hset]
  rfl

theorem readNumber?_padded {set : Fields} (hset : fields.set? field n = some set)
    (hfield : field.width = some width) (hwidth : 0 < width) (hn : n < 10 ^ width)
    (rest : List Char) :
    readNumber? field fields (padded width n ++ rest) = some (set, rest) := by
  have hdigit := startsWithDigit_padded width n rest
  have htake := takeDigits?_length (padded_ne_nil width n) (fun _ => isDigit_of_mem_padded) rest
  rw [length_padded hwidth hn] at htake
  refine readNumber?_of_takeNumber? hset (trimStart_of_digit hdigit) ?_
  rw [takeNumber?_of_digit hdigit, hfield, htake, Option.map_some]
  simp only [digitsValue_padded]

end Fields

/-! ### Fractions of a second -/

theorem takeNanos?_padded {width n : Nat} {rest : List Char} (hwidth : 0 < width)
    (hle : width ≤ 9) (hn : n < 10 ^ width) (hstops : startsWithDigit rest = false) :
    takeNanos? (padded width n ++ rest) = some ((n : Int) * tenTo (9 - width), rest) := by
  have hlength := length_padded hwidth hn
  have hlimit : ∀ k ∈ some 9, (padded width n).length ≤ k := by
    rintro k ⟨⟩
    rw [hlength]
    exact hle
  rw [takeNanos?, takeDigits?_of_stops (padded_ne_nil width n) (fun _ => isDigit_of_mem_padded)
    hstops hlimit]
  simp only [Option.map_some, digitsValue_padded, hlength, dropWhile_isDigit hstops]

section Fraction

variable {fields : Fields} {nano : Nat} {rest : List Char}

theorem readFraction?_padded {width n : Nat} (hwidth : 0 < width) (hle : width ≤ 9)
    (hn : n < 10 ^ width) (hnano : n * tenTo (9 - width) = nano) (hpos : nano ≠ 0)
    (hlt : nano < 1000000000) (hstops : startsWithDigit rest = false)
    (hunset : fields.nano = none) :
    readFraction? none fields ('.' :: (padded width n ++ rest)) =
      some (fields.withNano nano, rest) := by
  have hvalue : (n : Int) * (tenTo (9 - width) : Nat) = (nano : Int) := by exact_mod_cast hnano
  simp only [readFraction?, takeNanos?_padded hwidth hle hn hstops, Option.bind_eq_bind,
    Option.bind_some, hvalue, Fields.setNano?_eq hunset hpos hlt]
  rfl

/-- A fraction is read where something else than a digit or a point follows. -/
theorem readFraction?_fractionText {c : Char} (hlt : nano < 1000000000)
    (hdigit : c.isDigit = false) (hpoint : c ≠ '.') (hunset : fields.nano = none) :
    readFraction? none fields (fractionText nano ++ c :: rest) =
      some (fields.withNano nano, c :: rest) := by
  by_cases hzero : nano = 0
  · have hsame : fields.withNano nano = fields := by
      rw [Fields.withNano, if_pos hzero, ← hunset]
    rw [fractionText, if_pos hzero, List.nil_append, hsame]
    unfold readFraction?
    split
    · next heq => exact absurd (List.cons.inj heq).1 hpoint
    · rfl
  · rw [fractionText, if_neg hzero]
    split
    · have hmillis : nano / 1000000 * tenTo (9 - 3) = nano := by
        change nano / 1000000 * 1000000 = nano
        omega
      exact readFraction?_padded (by decide) (by decide) (by omega) hmillis hzero hlt hdigit hunset
    · split
      · have hmicros : nano / 1000 * tenTo (9 - 6) = nano := by
          change nano / 1000 * 1000 = nano
          omega
        exact readFraction?_padded (by decide) (by decide) (by omega) hmicros hzero hlt hdigit
          hunset
      · exact readFraction?_padded (by decide) (by decide) hlt (Nat.mul_one nano) hzero hlt hdigit
          hunset

end Fraction

/-! ### Offsets -/

/-- The text of an offset starts with a sign. -/
theorem Offset.text_eq_cons (offset : Offset) :
    ∃ c rest, offset.text = c :: rest ∧ c.isDigit = false ∧ c ≠ '.' := by
  rw [text]
  refine ⟨_, _, rfl, ?_⟩
  split <;> decide

theorem takeOffsetMinutes?_padded : ∀ n < 60,
    takeOffsetMinutes? false (padded 2 n) = some ((n : Int), []) := by
  decide +kernel

theorem takeSignedOffset?_padded {c : Char} {negative : Bool} {minutes : Nat}
    (hsign : ∀ rest, takeOffsetSign? (c :: rest) = some (negative, rest))
    (hlt : minutes < 100 * 60) :
    takeSignedOffset? rfc3339Offset
        (c :: (padded 2 (minutes / 60) ++ ':' :: padded 2 (minutes % 60))) =
      some (if negative then -(minutes * 60 : Int) else minutes * 60, []) := by
  have hhours : minutes / 60 < 10 ^ 2 := by omega
  have hvalue : ((minutes / 60 : Nat) : Int) * 3600 + ((minutes % 60 : Nat) : Int) * 60 =
      minutes * 60 := by omega
  simp only [takeSignedOffset?, hsign, takeExactly?_padded (by decide : 0 < 2) hhours,
    rfc3339Offset, takeColon?, takeOffsetMinutes?_padded (minutes % 60) (by omega),
    digitsValue_padded, Option.bind_eq_bind, Option.bind_some, if_true, hvalue]
  rfl

/-- The text of a whole number of minutes is read as the offset. -/
theorem takeOffset?_text (offset : Offset) (hminutes : offset.seconds % 60 = 0) :
    takeOffset? rfc3339Offset offset.text = some (offset.seconds, []) := by
  have hrange := offset.inRange
  obtain ⟨minutes, hdef⟩ : ∃ minutes, minutes = (offset.seconds.natAbs + 30) / 60 := ⟨_, rfl⟩
  have hlt : minutes < 100 * 60 := by omega
  rw [Offset.text, ← hdef, List.cons_append]
  split
  · have htake := takeSignedOffset?_padded (c := '-') (fun _ => rfl) hlt
    rw [takeOffset?, if_neg (by decide), htake, if_pos rfl]
    congr 2
    omega
  · have htake := takeSignedOffset?_padded (c := '+') (fun _ => rfl) hlt
    rw [takeOffset?, if_neg (by decide), htake, if_neg Bool.false_ne_true]
    congr 2
    omega

theorem readOffset?_text {fields : Fields} (offset : Offset) (hminutes : offset.seconds % 60 = 0)
    (hunset : fields.offset = none) :
    readOffset? rfc3339Offset fields offset.text =
      some (fields.withOffset offset.seconds, []) := by
  simp only [readOffset?, takeOffset?_text offset hminutes, Fields.setOffset?_eq hunset,
    Option.bind_eq_bind, Option.bind_some]
  rfl

end Intake.Calendar
