import Intake.Proofs.Calendar.Moment
import Intake.Proofs.Calendar.Number

/-!
# Reading the texts of dates and moments

What a date or a moment shows is read back as it.

* `Moment.read?_text`: the text of a moment is a timestamp of RFC 3339, and that form is tried
  first.  What is read is the moment with its clock settled (`Clock.settled`): a leap second is
  written as second 60, and a billion nanoseconds at another second as the second after it.
* `Date.read?_text`: the text of a date is read by the first layout of dates.  It is no timestamp,
  and the layouts tried before all go on where a date ends (`layouts_after_date`).
-/

namespace Intake.Calendar

theorem daysInMonth_le (year : Int) (month : Nat) : daysInMonth year month ≤ 31 := by
  unfold daysInMonth
  split
  · split <;> decide
  · split <;> decide

/-! ### What a clock writes -/

namespace Clock

/-- The second that is written: in a leap second it is one more. -/
def shownSecond (clock : Clock) : Nat :=
  if 1000000000 ≤ clock.nano then clock.second % 60 + 1 else clock.second % 60

def shownNano (clock : Clock) : Nat :=
  if 1000000000 ≤ clock.nano then clock.nano - 1000000000 else clock.nano

/-- A billion nanoseconds are one more second, unless they make the last second of a minute a leap
second. -/
def settled (clock : Clock) : Clock :=
  if h : 1000000000 ≤ clock.nano ∧ clock.second % 60 ≠ 59 then
    { second := clock.second + 1
      nano := clock.nano - 1000000000
      second_lt := by have := clock.second_lt; omega
      nano_lt := by have := clock.nano_lt; omega }
  else
    clock

theorem settled_of_carry {clock : Clock} (hnano : 1000000000 ≤ clock.nano)
    (hsecond : clock.second % 60 ≠ 59) :
    clock.settled.second = clock.second + 1 ∧ clock.settled.nano = clock.nano - 1000000000 := by
  rw [settled, dif_pos ⟨hnano, hsecond⟩]
  exact ⟨rfl, rfl⟩

/-- Only the last second of a minute can have a billion nanoseconds. -/
theorem settled_eq_self_iff {clock : Clock} :
    clock.settled = clock ↔ (1000000000 ≤ clock.nano → clock.second % 60 = 59) := by
  constructor
  · intro heq hnano
    by_contra hsecond
    have hcarry := (settled_of_carry hnano hsecond).2
    rw [heq] at hcarry
    omega
  · intro h
    exact dif_neg (by omega)

theorem shownSecond_le (clock : Clock) : clock.shownSecond ≤ 60 := by
  rw [shownSecond]
  split <;> omega

theorem shownNano_lt (clock : Clock) : clock.shownNano < 1000000000 := by
  have := clock.nano_lt
  rw [shownNano]
  split <;> omega

/-- What is written is read as the settled clock; second 60 is the leap second after second 59. -/
theorem ofParts?_shown (clock : Clock) :
    (if clock.shownSecond = 60 then
      ofParts? (clock.second / 3600) (clock.second / 60 % 60) 59 (clock.shownNano + 1000000000)
    else
      ofParts? (clock.second / 3600) (clock.second / 60 % 60) clock.shownSecond clock.shownNano) =
      some clock.settled := by
  have hsecond := clock.second_lt
  have hnano := clock.nano_lt
  unfold shownSecond shownNano settled
  by_cases hleap : 1000000000 ≤ clock.nano
  · by_cases hlast : clock.second % 60 = 59
    · rw [if_pos hleap, if_pos hleap, if_pos (by omega), dif_neg (by omega), ofParts?_eq_some_iff]
      omega
    · rw [if_pos hleap, if_pos hleap, if_neg (by omega), dif_pos ⟨hleap, hlast⟩,
        ofParts?_eq_some_iff]
      refine ⟨by omega, ?_, rfl⟩
      change clock.second + 1 = _
      omega
  · rw [if_neg hleap, if_neg hleap, if_neg (by omega), dif_neg (by omega), ofParts?_eq_some_iff]
    omega

theorem clockText_eq (clock : Clock) :
    clockText clock.second clock.nano =
      padded 2 (clock.second / 3600) ++ ':' :: (padded 2 (clock.second / 60 % 60) ++
        ':' :: (padded 2 clock.shownSecond ++ fractionText clock.shownNano)) := by
  rw [clockText, shownSecond, shownNano]
  simp only [List.append_assoc, List.cons_append]

end Clock

namespace Fields

def ofDate (date : Date) : Fields :=
  ((({} : Fields).withYear date.year).withMonth date.month).withDay date.day

def ofReading (reading : Reading) (offset : Offset) : Fields :=
  (((((ofDate reading.date).withHour (reading.clock.second / 3600 : Nat)).withMinute
    (reading.clock.second / 60 % 60 : Nat)).withSecond reading.clock.shownSecond).withNano
      reading.clock.shownNano).withOffset offset.seconds

theorem date_ofDate (day : Date) : (ofDate day).date = .ok day := by
  have hday : Date.ofCivil? day.year day.month day.day = some day :=
    Date.ofCivil?_eq_some_iff.mpr ⟨rfl, rfl, rfl⟩
  simp [ofDate, withYear, withMonth, withDay, date, resolveYear, candidate, hday, required,
    agreesCivil, agrees, partsAgree, agreesIsoWeek, agreesOrdinal, bind, Except.bind, pure,
    Except.pure]

/-- The time makes no difference for the date. -/
theorem date_ofReading (reading : Reading) (offset : Offset) :
    (ofReading reading offset).date = .ok reading.date :=
  date_ofDate reading.date

theorem clock_ofReading (reading : Reading) (offset : Offset) :
    (ofReading reading offset).clock = .ok reading.clock.settled := by
  obtain ⟨day, clock⟩ := reading
  have hhour : (((clock.second / 3600 : Nat) : Int) / 12 * 12 +
      ((clock.second / 3600 : Nat) : Int) % 12).toNat = clock.second / 3600 := by omega
  have hnano : ((if clock.shownNano = 0 then none else some (clock.shownNano : Int)).getD
      0).toNat = clock.shownNano := by
    split
    · next hzero => rw [hzero]; rfl
    · rfl
  unfold Fields.clock
  simp only [ofReading, withHour, withMinute, withSecond, withNano, withOffset, hhour, hnano,
    Option.isNone_some, Bool.false_and, Option.getD_some, Int.toNat_natCast, Bool.false_eq_true,
    if_false, Clock.ofParts?_shown]

theorem reading?_ofReading (reading : Reading) (offset : Offset) (seconds : Int) :
    (ofReading reading offset).reading? seconds = some ⟨reading.date, reading.clock.settled⟩ := by
  rw [reading?, date_ofReading, clock_ofReading]
  rfl

theorem zoned?_ofReading {reading : Reading} {offset : Offset} {moment : Moment}
    (hmoment : Moment.ofLocal? ⟨reading.date, reading.clock.settled⟩ offset = some moment) :
    (ofReading reading offset).zoned? =
      some ⟨⟨reading.date, reading.clock.settled⟩, some offset⟩ := by
  have hoffset : Offset.ofSeconds? offset.seconds = some offset := dif_pos offset.inRange
  have hfields : (ofReading reading offset).offset = some offset.seconds := rfl
  simp only [zoned?, hfields, reading?_ofReading, hoffset, hmoment, Option.bind_eq_bind,
    Option.bind_some]
  rfl

end Fields

/-! ### RFC 3339 -/

def writtenText (reading : Reading) (offset : Offset) : List Char :=
  civilText reading.date.year reading.date.month reading.date.day ++
    'T' :: clockText reading.clock.second reading.clock.nano ++ offset.text

theorem Moment.text_eq {moment : Moment} {reading : Reading}
    (h : moment.localReading? = some reading) :
    moment.text = String.ofList (writtenText reading moment.offset) := by
  obtain ⟨hseconds, hnano⟩ := localReading?_eq_some_iff.mp h
  have hlt := reading.clock.second_lt
  have hdate : moment.localSeconds / 86400 = reading.date.number := by
    rw [localSeconds, ← hseconds, Reading.seconds]
    omega
  have hsecond : (moment.localSeconds % 86400).toNat = reading.clock.second := by
    rw [localSeconds, ← hseconds, Reading.seconds]
    omega
  rw [text, hdate, Date.number, civil_dayNumber reading.date.isDate, hsecond, ← hnano, writtenText]

def rfc3339Date? (cs : List Char) : Option (Fields × List Char) := do
  let (fields, cs) ← readExact? .year 4 {} cs
  let (fields, cs) ← readLiteral? '-' fields cs
  let (fields, cs) ← readExact? .month 2 fields cs
  let (fields, cs) ← readLiteral? '-' fields cs
  readExact? .day 2 fields cs

def rfc3339Time? (fields : Fields) (cs : List Char) : Option Fields := do
  let (fields, cs) ← readExact? .hour 2 fields cs
  let (fields, cs) ← readLiteral? ':' fields cs
  let (fields, cs) ← readExact? .minute 2 fields cs
  let (fields, cs) ← readLiteral? ':' fields cs
  let (fields, cs) ← readExact? .second 2 fields cs
  let (fields, cs) ← readFraction? none fields cs
  let (fields, cs) ← readOffset? rfc3339Offset fields cs
  if cs.isEmpty then some fields else none

/-- Reads the time of a timestamp after a `T` or the like. -/
def rfc3339Rest? (fields : Fields) : List Char → Option Fields
  | c :: rest => if c = 'T' || c = 't' || c = ' ' then rfc3339Time? fields rest else none
  | [] => none

theorem rfc3339Rest?_letter (fields : Fields) (rest : List Char) :
    rfc3339Rest? fields ('T' :: rest) = rfc3339Time? fields rest :=
  rfl

theorem rfc3339Fields?_eq (cs : List Char) :
    rfc3339Fields? cs = (rfc3339Date? cs).bind fun read => rfc3339Rest? read.1 read.2 := by
  simp only [rfc3339Date?, Option.bind_eq_bind, Option.bind_assoc]
  rfl

theorem rfc3339Date?_civilText {date : Date} (hyear : 0 ≤ date.year) (hyear' : date.year ≤ 9999)
    (tail : List Char) :
    rfc3339Date? (civilText date.year date.month date.day ++ tail) =
      some (Fields.ofDate date, tail) := by
  obtain ⟨-, -, hmonth, hmonth', hday, hday'⟩ := date.isDate
  have hdays := daysInMonth_le date.year date.month
  have hyearValue : ((date.year.toNat : Nat) : Int) = date.year := by omega
  have hreadYear : ∀ rest, readExact? .year 4 {} (padded 4 date.year.toNat ++ rest) =
      some (({} : Fields).withYear date.year, rest) := by
    rw [← hyearValue]
    exact readExact?_padded (Fields.set?_year rfl (by omega) (by omega)) (by decide) (by omega)
  have hreadMonth : ∀ rest, readExact? .month 2 (({} : Fields).withYear date.year)
      (padded 2 date.month ++ rest) =
        some ((({} : Fields).withYear date.year).withMonth date.month, rest) :=
    readExact?_padded (Fields.set?_month rfl (by omega) (by omega)) (by decide) (by omega)
  have hreadDay : ∀ rest, readExact? .day 2
      ((({} : Fields).withYear date.year).withMonth date.month) (padded 2 date.day ++ rest) =
        some (Fields.ofDate date, rest) :=
    readExact?_padded (Fields.set?_day rfl (by omega) (by omega)) (by decide) (by omega)
  rw [civilText, yearText, if_pos ⟨hyear, hyear'⟩]
  simp only [List.append_assoc, List.cons_append]
  refine Option.bind_eq_some_iff.mpr ⟨_, hreadYear _, ?_⟩
  refine Option.bind_eq_some_iff.mpr ⟨_, readLiteral?_self _ _ _, ?_⟩
  refine Option.bind_eq_some_iff.mpr ⟨_, hreadMonth _, ?_⟩
  refine Option.bind_eq_some_iff.mpr ⟨_, readLiteral?_self _ _ _, ?_⟩
  exact hreadDay _

theorem rfc3339Time?_clockText {reading : Reading} {offset : Offset}
    (hminutes : offset.seconds % 60 = 0) :
    rfc3339Time? (Fields.ofDate reading.date)
        (clockText reading.clock.second reading.clock.nano ++ offset.text) =
      some (Fields.ofReading reading offset) := by
  have hsecond := reading.clock.second_lt
  have hshown := reading.clock.shownSecond_le
  have hnano := reading.clock.shownNano_lt
  obtain ⟨hour, hhour⟩ : ∃ hour, hour = reading.clock.second / 3600 := ⟨_, rfl⟩
  obtain ⟨minute, hminute⟩ : ∃ minute, minute = reading.clock.second / 60 % 60 := ⟨_, rfl⟩
  obtain ⟨c, rest, htext, hdigit, hpoint⟩ := offset.text_eq_cons
  obtain ⟨hours, hhours⟩ : ∃ fields, fields = (Fields.ofDate reading.date).withHour hour :=
    ⟨_, rfl⟩
  have hreadHour : ∀ rest, readExact? .hour 2 (Fields.ofDate reading.date)
      (padded 2 hour ++ rest) = some (hours, rest) := by
    rw [hhours]
    exact readExact?_padded (Fields.set?_hour rfl rfl (by omega) (by omega)) (by decide) (by omega)
  have hreadMinute : ∀ rest, readExact? .minute 2 hours (padded 2 minute ++ rest) =
      some (hours.withMinute minute, rest) :=
    readExact?_padded (Fields.set?_minute (hhours ▸ rfl) (by omega) (by omega)) (by decide)
      (by omega)
  have hreadSecond : ∀ rest, readExact? .second 2 (hours.withMinute minute)
      (padded 2 reading.clock.shownSecond ++ rest) =
        some ((hours.withMinute minute).withSecond reading.clock.shownSecond, rest) :=
    readExact?_padded (Fields.set?_second (hhours ▸ rfl) (by omega) (by omega)) (by decide)
      (by omega)
  have hnanoUnset : ((hours.withMinute minute).withSecond reading.clock.shownSecond).nano = none :=
    hhours ▸ rfl
  have hreadOffset := readOffset?_text offset hminutes (hhours ▸ rfl :
    (((hours.withMinute minute).withSecond reading.clock.shownSecond).withNano
      reading.clock.shownNano).offset = none)
  rw [htext] at hreadOffset ⊢
  rw [Clock.clockText_eq, ← hhour, ← hminute]
  simp only [List.append_assoc, List.cons_append]
  refine Option.bind_eq_some_iff.mpr ⟨_, hreadHour _, ?_⟩
  refine Option.bind_eq_some_iff.mpr ⟨_, readLiteral?_self _ _ _, ?_⟩
  refine Option.bind_eq_some_iff.mpr ⟨_, hreadMinute _, ?_⟩
  refine Option.bind_eq_some_iff.mpr ⟨_, readLiteral?_self _ _ _, ?_⟩
  refine Option.bind_eq_some_iff.mpr ⟨_, hreadSecond _, ?_⟩
  refine Option.bind_eq_some_iff.mpr
    ⟨_, readFraction?_fractionText hnano hdigit hpoint hnanoUnset, ?_⟩
  refine Option.bind_eq_some_iff.mpr ⟨_, hreadOffset, ?_⟩
  rw [hhours, hhour, hminute]
  rfl

theorem rfc3339Fields?_writtenText {reading : Reading} {offset : Offset}
    (hyear : 0 ≤ reading.date.year) (hyear' : reading.date.year ≤ 9999)
    (hminutes : offset.seconds % 60 = 0) :
    rfc3339Fields? (writtenText reading offset) = some (Fields.ofReading reading offset) := by
  rw [writtenText, List.append_assoc, List.cons_append, rfc3339Fields?_eq,
    rfc3339Date?_civilText hyear hyear', Option.bind_some]
  exact (rfc3339Rest?_letter _ _).trans (rfc3339Time?_clockText hminutes)

/-! ### No blanks -/

theorem isBlank_padded (width n : Nat) : ∀ c ∈ padded width n, Text.isBlank c = false :=
  fun _ hc => Text.isBlank_of_isDigit (isDigit_of_mem_padded hc)

theorem isBlank_civilText (year : Int) (month day : Nat) :
    ∀ c ∈ civilText year month day, Text.isBlank c = false := by
  have hyear : ∀ c ∈ yearText year, Text.isBlank c = false := by
    unfold yearText
    split
    · exact isBlank_padded _ _
    · rw [List.forall_mem_cons]
      refine ⟨?_, isBlank_padded _ _⟩
      split <;> rfl
  simp only [civilText, List.forall_mem_append, List.forall_mem_cons]
  exact ⟨⟨hyear, rfl, isBlank_padded _ _⟩, rfl, isBlank_padded _ _⟩

theorem isBlank_fractionText (nano : Nat) : ∀ c ∈ fractionText nano, Text.isBlank c = false := by
  unfold fractionText
  split
  · simp
  · split
    · exact List.forall_mem_cons.mpr ⟨rfl, isBlank_padded _ _⟩
    · split
      · exact List.forall_mem_cons.mpr ⟨rfl, isBlank_padded _ _⟩
      · exact List.forall_mem_cons.mpr ⟨rfl, isBlank_padded _ _⟩

theorem isBlank_writtenText (reading : Reading) (offset : Offset) :
    ∀ c ∈ writtenText reading offset, Text.isBlank c = false := by
  have hsign : Text.isBlank (if offset.seconds < 0 then '-' else '+') = false := by
    split <;> rfl
  simp only [writtenText, Clock.clockText_eq, Offset.text, List.forall_mem_append,
    List.forall_mem_cons]
  exact ⟨⟨isBlank_civilText _ _ _, rfl, isBlank_padded _ _, rfl, isBlank_padded _ _, rfl,
    isBlank_padded _ _, isBlank_fractionText _⟩,
    ⟨hsign, isBlank_padded _ _⟩, rfl, isBlank_padded _ _⟩

/-! ### Moments -/

namespace Moment

def settled (moment : Moment) : Moment :=
  { moment with utc := ⟨moment.utc.date, moment.utc.clock.settled⟩ }

variable {moment : Moment} {reading : Reading}

theorem settled_eq_self_iff :
    moment.settled = moment ↔
      (1000000000 ≤ moment.utc.clock.nano → moment.utc.clock.second % 60 = 59) := by
  rw [← Clock.settled_eq_self_iff]
  obtain ⟨⟨date, clock⟩, offset⟩ := moment
  simp [settled]

theorem localReading?_settled (h : moment.localReading? = some reading)
    (hminutes : moment.offset.seconds % 60 = 0) :
    moment.settled.localReading? = some ⟨reading.date, reading.clock.settled⟩ := by
  rw [localReading?_eq_some_iff] at h ⊢
  obtain ⟨hseconds, hnano⟩ := h
  -- whole minutes apart, so that both are in the last second of a minute or neither is
  have hsame : reading.clock.second % 60 = moment.utc.clock.second % 60 := by
    rw [Reading.seconds, Reading.seconds] at hseconds
    omega
  by_cases hcarry : 1000000000 ≤ reading.clock.nano ∧ reading.clock.second % 60 ≠ 59
  · obtain ⟨hsecond, hrest⟩ := Clock.settled_of_carry hcarry.1 hcarry.2
    obtain ⟨hsecond', hrest'⟩ :=
      Clock.settled_of_carry (hnano ▸ hcarry.1) (hsame ▸ hcarry.2)
    simp only [settled, Reading.seconds, hsecond, hsecond', hrest, hrest'] at hseconds ⊢
    omega
  · have hreading : reading.clock.settled = reading.clock :=
      Clock.settled_eq_self_iff.mpr (by omega)
    have hmoment : moment.settled = moment := settled_eq_self_iff.mpr (by omega)
    rw [hreading, hmoment]
    exact ⟨hseconds, hnano⟩

/-- **The text of a moment is read as the moment**, settled, if its year has four digits and its
offset no seconds. -/
theorem read?_text (h : moment.localReading? = some reading) (hyear : 0 ≤ reading.date.year)
    (hyear' : reading.date.year ≤ 9999) (hminutes : moment.offset.seconds % 60 = 0) :
    Parsed.read? none moment.text =
      some ⟨⟨reading.date, reading.clock.settled⟩, some moment.offset⟩ := by
  have hmoment : ofLocal? ⟨reading.date, reading.clock.settled⟩ moment.offset =
      some moment.settled := ofLocal?_eq_some_iff.mpr ⟨localReading?_settled h hminutes, rfl⟩
  have hrfc : (rfc3339Fields? (writtenText reading moment.offset)).bind Fields.zoned? =
      some ⟨⟨reading.date, reading.clock.settled⟩, some moment.offset⟩ := by
    rw [rfc3339Fields?_writtenText hyear hyear' hminutes, Option.bind_some,
      Fields.zoned?_ofReading hmoment]
  rw [text_eq h, Parsed.read?, String.toList_ofList,
    Text.trimChars_eq_self (isBlank_writtenText reading moment.offset)]
  simp only [Parsed.common?, hrfc]
  rfl

end Moment

/-! ### Dates -/

def dateLayout : Layout :=
  [.number .year, .literal '-', .number .month, .literal '-', .number .day]

/-- The layouts of dates with times go on after the date, and do not read an end there. -/
theorem layouts_after_date : ∀ layout ∈ zonedLayouts ++ naiveLayouts,
    ∃ tail, Layout.ofString? layout = some (dateLayout ++ tail) ∧
      ∀ fields, Layout.read? tail fields [] = none := by
  simp only [zonedLayouts, naiveLayouts, List.cons_append, List.nil_append, List.forall_mem_cons]
  refine ⟨⟨_, rfl, fun _ => rfl⟩, ⟨_, rfl, fun _ => rfl⟩, ⟨_, rfl, fun _ => rfl⟩,
    ⟨_, rfl, fun _ => rfl⟩, ⟨_, rfl, fun _ => rfl⟩, ⟨_, rfl, fun _ => rfl⟩,
    ⟨_, rfl, fun _ => rfl⟩, ?_⟩
  simp

theorem readNumber?_yearText {year : Int} (hleast : -0x80000000 ≤ year)
    (hgreatest : year ≤ 0x7fffffff) (rest : List Char) :
    readNumber? .year {} (yearText year ++ '-' :: rest) =
      some (({} : Fields).withYear year, '-' :: rest) := by
  have hset : ({} : Fields).set? .year year = some (({} : Fields).withYear year) :=
    Fields.set?_year rfl hleast hgreatest
  have htake : takeDigits? none (padded 4 year.natAbs ++ '-' :: rest) =
      some (padded 4 year.natAbs, '-' :: rest) :=
    takeDigits?_of_stops (padded_ne_nil _ _) (fun _ => isDigit_of_mem_padded) rfl (by simp)
  unfold yearText
  split
  · next hyear =>
    have hyearValue : ((year.toNat : Nat) : Int) = year := by omega
    rw [← hyearValue] at hset
    have hread := readNumber?_padded hset rfl (by decide : 0 < 4) (by omega) ('-' :: rest)
    rw [hyearValue] at hread
    exact hread
  · rw [List.cons_append]
    split
    · have hvalue : -((year.natAbs : Nat) : Int) = year := by omega
      refine readNumber?_of_takeNumber? hset rfl ?_
      rw [takeNumber?, htake, Option.map_some]
      · simp only [digitsValue_padded, hvalue]
      · rfl
    · have hvalue : ((year.natAbs : Nat) : Int) = year := by omega
      refine readNumber?_of_takeNumber? hset rfl ?_
      rw [takeNumber?, htake, Option.map_some]
      · simp only [digitsValue_padded, hvalue]
      · rfl

/-- The layout of dates reads the text of a date and leaves nothing of it. -/
theorem read?_dateLayout (date : Date) (tail : Layout) :
    Layout.read? (dateLayout ++ tail) {} (civilText date.year date.month date.day) =
      Layout.read? tail (Fields.ofDate date) [] := by
  obtain ⟨hyear, hyear', hmonth, hmonth', hday, hday'⟩ := date.isDate
  have hdays := daysInMonth_le date.year date.month
  rw [leastYear] at hyear
  rw [greatestYear] at hyear'
  have hreadYear := readNumber?_yearText (by omega : -0x80000000 ≤ date.year) (by omega)
  have hreadMonth : ∀ rest, readNumber? .month (({} : Fields).withYear date.year)
      (padded 2 date.month ++ rest) =
        some ((({} : Fields).withYear date.year).withMonth date.month, rest) :=
    readNumber?_padded (Fields.set?_month rfl (by omega) (by omega)) rfl (by decide) (by omega)
  have hreadDay : ∀ rest, readNumber? .day
      ((({} : Fields).withYear date.year).withMonth date.month) (padded 2 date.day ++ rest) =
        some (Fields.ofDate date, rest) :=
    readNumber?_padded (Fields.set?_day rfl (by omega) (by omega)) rfl (by decide) (by omega)
  have hend := hreadDay []
  rw [List.append_nil] at hend
  simp only [dateLayout, civilText, List.cons_append, List.nil_append, List.append_assoc,
    Layout.read?, Item.read?, hreadYear, hreadMonth, hend, readLiteral?, Option.bind_eq_bind,
    Option.bind_some, if_true]

theorem readWith?_eq_none_of_mem {layout : String} (h : layout ∈ zonedLayouts ++ naiveLayouts)
    (resolve : Fields → Option Parsed) (date : Date) :
    readWith? resolve (civilText date.year date.month date.day) layout = none := by
  obtain ⟨tail, hlayout, htail⟩ := layouts_after_date layout h
  rw [readWith?, hlayout, Option.bind_some, read?_dateLayout, htail, Option.bind_none]

theorem readWith?_dateOnly? (date : Date) :
    readWith? Fields.dateOnly? (civilText date.year date.month date.day) "%Y-%m-%d" =
      some (.ofDate date) := by
  have hlayout : Layout.ofString? "%Y-%m-%d" = some dateLayout := rfl
  have hread := read?_dateLayout date []
  rw [List.append_nil] at hread
  have hend : Layout.read? [] (Fields.ofDate date) [] = some (Fields.ofDate date) := rfl
  rw [readWith?, hlayout, Option.bind_some, hread, hend, Option.bind_some, Fields.dateOnly?,
    Fields.date?, Fields.date_ofDate]
  rfl

theorem rfc3339Fields?_of_sign {c : Char} (hc : c.isDigit = false) (rest : List Char) :
    rfc3339Fields? (c :: rest) = none := by
  have htake : takeDigits? (some 4) (c :: rest) = none := by
    rw [takeDigits?, List.takeWhile_cons_of_neg (by simp [hc])]
    rfl
  rw [rfc3339Fields?, readExact?, takeExactly?, htake]
  rfl

/-- The date alone is no timestamp. -/
theorem rfc3339Fields?_date (date : Date) :
    rfc3339Fields? (civilText date.year date.month date.day) = none := by
  by_cases hyear : 0 ≤ date.year ∧ date.year ≤ 9999
  · have hread := rfc3339Date?_civilText hyear.1 hyear.2 []
    rw [List.append_nil] at hread
    rw [rfc3339Fields?_eq, hread]
    rfl
  · rw [civilText, yearText, if_neg hyear]
    refine rfc3339Fields?_of_sign ?_ _
    split <;> rfl

/-- **The text of a date is read as the date.** -/
theorem Date.read?_text (date : Date) : Parsed.read? none date.text = some (.ofDate date) := by
  have hzoned : zonedLayouts.findSome?
      (readWith? Fields.zoned? (civilText date.year date.month date.day)) = none :=
    List.findSome?_eq_none_iff.mpr fun layout hlayout =>
      readWith?_eq_none_of_mem (List.mem_append_left _ hlayout) _ date
  have hnaive : naiveLayouts.findSome?
      (readWith? Fields.naive? (civilText date.year date.month date.day)) = none :=
    List.findSome?_eq_none_iff.mpr fun layout hlayout =>
      readWith?_eq_none_of_mem (List.mem_append_right _ hlayout) _ date
  rw [Parsed.read?, text, String.toList_ofList,
    Text.trimChars_eq_self (isBlank_civilText date.year date.month date.day)]
  simp only [Parsed.common?, rfc3339Fields?_date, hzoned, hnaive, dateLayouts, List.findSome?_cons,
    readWith?_dateOnly?]
  rfl

end Intake.Calendar
