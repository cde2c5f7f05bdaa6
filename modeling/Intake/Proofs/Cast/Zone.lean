import Intake.Proofs.Cast.Picker

/-!
# What the active zone does

An absolute value stands for a point in time whatever zone is active, a naive one is a reading that
the active zone makes a point in time of.

* `cast_time_zones`: another zone shows absolute values otherwise and moves naive ones.
* `cast_calendar_agree`: filters of dates, of date-times and, in UTC, of times accept the same
  strings and date picker's hashes, and read the same out of them.
-/

namespace Intake

namespace Scalar

open Calendar (Parsed Moment Reading Offset)

/-! ### Absolute and naive values -/

/-- A value stands for a point in time on its own. -/
inductive Absolute (layout : Option String) : Value → Prop where
  | time (moment : Moment) : Absolute layout (.time moment)
  | dateTime (moment : Moment) : Absolute layout (.dateTime moment)
  | integer (n : Int64) : Absolute layout (.integer n)
  | float (x : Float) : Absolute layout (.float x)
  | text {s : String} {parsed : Parsed} {offset : Offset}
      (reads : Parsed.read? layout s = some parsed) (zoned : parsed.offset = some offset) :
      Absolute layout (.string s)

/-- The point in time that a value stands for, in seconds after the epoch and nanoseconds.  Some
floats stand for none. -/
inductive StandsFor (layout : Option String) : Value → Int → Nat → Prop where
  | time (moment : Moment) :
      StandsFor layout (.time moment) moment.utc.seconds moment.utc.clock.nano
  | dateTime (moment : Moment) :
      StandsFor layout (.dateTime moment) moment.utc.seconds moment.utc.clock.nano
  | integer (n : Int64) : StandsFor layout (.integer n) n.toInt 0
  | float {x : Float} {whole : Int} (floor : Binary64.floor? x = some whole) :
      StandsFor layout (.float x) whole (nanosOfFloat x whole)
  | text {s : String} {parsed : Parsed} {offset : Offset}
      (reads : Parsed.read? layout s = some parsed) (zoned : parsed.offset = some offset) :
      StandsFor layout (.string s) (parsed.reading.seconds - offset.seconds)
        parsed.reading.clock.nano

/-- A value has a reading without an offset. -/
inductive Naive (layout : Option String) : Value → Reading → Prop where
  | text {s : String} {parsed : Parsed} (reads : Parsed.read? layout s = some parsed)
      (naive : parsed.offset = none) : Naive layout (.string s) parsed.reading
  | picker {entries : Entries Value} {year : Int} {month day hour minute second : Nat}
      (picks : Picks entries year month day hour minute second) :
      Naive layout (.hash entries) picks.reading

variable {layout : Option String} {value : Value} {zone : Offset} {moment : Moment}
variable {reading : Reading} {parsed : Parsed} {s : String}

theorem readTime?_text (hreads : Parsed.read? layout s = some parsed) (zone : Offset) :
    readTime? layout zone (.string s) = parsed.inZone? zone := by
  have hstring : readTime? layout zone (.string s) =
      (Parsed.read? layout s).bind (·.inZone? zone) := rfl
  rw [hstring, hreads, Option.bind_some]

theorem Absolute.ne_nil (h : Absolute layout value) : value ≠ .nil := by
  cases h <;> simp

theorem StandsFor.ne_nil {seconds : Int} {nano : Nat} (h : StandsFor layout value seconds nano) :
    value ≠ .nil := by
  cases h <;> simp

theorem Naive.ne_nil (h : Naive layout value reading) : value ≠ .nil := by
  cases h <;> simp

/-- An absolute value is read as the same moment in every zone. -/
theorem Absolute.readTime? (h : Absolute layout value) (zone other : Offset) :
    readTime? layout zone value = readTime? layout other value := by
  cases h with
  | time | dateTime | integer | float => rfl
  | text reads zoned =>
    rw [readTime?_text reads, readTime?_text reads, Parsed.inZone?, Parsed.inZone?, zoned,
      Option.getD_some, Option.getD_some]

theorem StandsFor.of_readTime? {seconds : Int} {nano : Nat}
    (h : StandsFor layout value seconds nano) (hreads : readTime? layout zone value = some moment) :
    moment.utc.seconds = seconds ∧ moment.utc.clock.nano = nano := by
  cases h with
  | time moment =>
    obtain rfl := Option.some.inj hreads
    exact ⟨rfl, rfl⟩
  | dateTime moment =>
    obtain rfl := Option.some.inj hreads
    exact ⟨rfl, rfl⟩
  | integer n =>
    obtain ⟨hseconds, hnano, -⟩ := Moment.ofEpoch?_eq_some_iff.mp hreads
    exact ⟨hseconds, hnano⟩
  | float floor =>
    rw [readTime?, epochFloat?, floor, Option.bind_some] at hreads
    obtain ⟨hseconds, hnano, -⟩ := Moment.ofEpoch?_eq_some_iff.mp hreads
    exact ⟨hseconds, hnano⟩
  | @text s parsed offset reads zoned =>
    rw [readTime?_text reads, Parsed.inZone?_eq_some_iff, zoned, Option.getD_some,
      Moment.localReading?_eq_some_iff] at hreads
    obtain ⟨⟨hseconds, hnano⟩, rfl⟩ := hreads
    exact ⟨by omega, hnano.symm⟩

/-- A naive value is read as the moment at which a clock in the zone shows its reading. -/
theorem Naive.readTime? (h : Naive layout value reading) (zone : Offset) :
    readTime? layout zone value = Moment.ofLocal? reading zone := by
  cases h with
  | text reads naive => rw [readTime?_text reads, Parsed.inZone?, naive, Option.getD_none]
  | @picker entries year month day hour minute second picks =>
    obtain ⟨value, hget, -⟩ := picks.hasYear
    have hpicker : entries.contains "1" = true := by
      rw [Entries.contains, hget]
      rfl
    have hgrouped : grouped? entries = some picks.reading :=
      grouped?_eq_some_iff.mpr ⟨year, month, day, hour, minute, second, picks, rfl⟩
    have hhash : readTime? layout zone (.hash entries) =
        (calendar? layout (.hash entries)).bind (·.inZone? zone) := rfl
    rw [hhash, calendar?_hash hpicker, hgrouped]
    rfl

/-- What is read as a moment is absolute or naive. -/
theorem absolute_or_naive_of_readTime? (hreads : readTime? layout zone value = some moment) :
    Absolute layout value ∨ ∃ reading, Naive layout value reading := by
  cases value with
  | time moment => exact .inl (.time moment)
  | dateTime moment => exact .inl (.dateTime moment)
  | integer n => exact .inl (.integer n)
  | float x => exact .inl (.float x)
  | string s =>
    obtain ⟨parsed, hparsed, -⟩ := Option.bind_eq_some_iff.mp hreads
    cases hoffset : parsed.offset with
    | some offset => exact .inl (.text hparsed hoffset)
    | none => exact .inr ⟨_, .text hparsed hoffset⟩
  | hash entries =>
    obtain ⟨parsed, hparsed, -⟩ := Option.bind_eq_some_iff.mp hreads
    obtain ⟨hpicker, hgrouped⟩ := Option.ite_none_right_eq_some.mp hparsed
    obtain ⟨reading, hreading, -⟩ := Option.map_eq_some_iff.mp hgrouped
    obtain ⟨year, month, day, hour, minute, second, picks, -⟩ :=
      grouped?_eq_some_iff.mp hreading
    exact .inr ⟨_, .picker picks⟩
  | _ => exact absurd hreads (by simp [readTime?, calendar?])

/-! ### Strings and date picker's hashes -/

/-- A value says a date and a time in writing. -/
inductive Written : Value → Prop where
  | text (s : String) : Written (.string s)
  | picker {entries : Entries Value} (hasYear : entries.contains "1" = true) :
      Written (.hash entries)

theorem Written.readDate? (h : Written value) (layout : Option String) :
    readDate? layout value = (calendar? layout value).map (·.reading.date) := by
  cases h <;> rfl

theorem Written.readDateTime? (h : Written value) (layout : Option String) :
    readDateTime? layout value = (calendar? layout value).bind (·.inZone? .utc) := by
  cases h <;> rfl

theorem Written.readTime? (h : Written value) (layout : Option String) (zone : Offset) :
    readTime? layout zone value = (calendar? layout value).bind (·.inZone? zone) := by
  cases h <;> rfl

theorem Written.ne_nil (h : Written value) : value ≠ .nil := by
  cases h <;> simp

theorem Written.placed (h : Written value) (hreads : calendar? layout value = some parsed) :
    parsed.Placed := by
  cases h with
  | text s => exact Parsed.placed_of_read? hreads
  | picker hasYear =>
    rw [calendar?_hash hasYear] at hreads
    obtain ⟨reading, -, rfl⟩ := Option.map_eq_some_iff.mp hreads
    rintro _ ⟨⟩

/-- What is read of it has a moment, in UTC where it has no offset. -/
theorem Written.exists_readDateTime? (h : Written value)
    (hreads : calendar? layout value = some parsed) :
    ∃ moment, Scalar.readDateTime? layout value = some moment := by
  rw [h.readDateTime?, hreads, Option.bind_some]
  exact (h.placed hreads).exists_inZone? fun _ => rfl

/-- In UTC times are read as date-times are. -/
theorem Written.readTime?_utc (h : Written value) (hutc : zone = .utc) :
    Scalar.readTime? layout zone value = Scalar.readDateTime? layout value := by
  rw [h.readTime?, h.readDateTime?, hutc]

end Scalar

namespace Filter

open Calendar (Parsed Moment Reading Offset)
open Scalar (Absolute StandsFor Naive Written)

variable {head : Head} {layout : Option String} {ctx : Context} {drawn : Nat}
variable {value result : Value} {moment : Moment}

/-! ### Times -/

theorem cast_time_eq_ok_iff (hnil : value ≠ .nil) :
    (scalar head (.time layout)).cast ctx drawn value = .ok result ↔
      ∃ moment, Scalar.readTime? layout ctx.effectiveZone value = some moment ∧
        result = .time (moment.shownIn ctx.effectiveZone) := by
  have hread : (Scalar.time layout).read ctx value =
      ((Scalar.readTime? layout ctx.effectiveZone value).map
        (·.shownIn ctx.effectiveZone)).map .time := by
    rw [Option.map_map]
    rfl
  rw [cast_scalar_eq_ok_iff hread hnil]
  simp only [Option.map_eq_some_iff]
  constructor
  · rintro ⟨_, ⟨moment, hmoment, rfl⟩, rfl⟩
    exact ⟨moment, hmoment, rfl⟩
  · rintro ⟨moment, hmoment, rfl⟩
    exact ⟨_, ⟨moment, hmoment, rfl⟩, rfl⟩

/-- A time is shown in the zone of the context, and is a moment that is read. -/
theorem exists_readTime?_of_cast (hnil : value ≠ .nil)
    (hcast : (scalar head (.time layout)).cast ctx drawn value = .ok (.time moment)) :
    moment.offset = ctx.effectiveZone ∧
      ∃ read, Scalar.readTime? layout ctx.effectiveZone value = some read ∧
        read.utc = moment.utc := by
  obtain ⟨read, hread, hmoment⟩ := (cast_time_eq_ok_iff hnil).mp hcast
  obtain rfl := Value.time.inj hmoment
  exact ⟨rfl, read, hread, rfl⟩

theorem exists_cast_time_iff (hnil : value ≠ .nil) :
    (∃ result, (scalar head (.time layout)).cast ctx drawn value = .ok result) ↔
      ∃ read, Scalar.readTime? layout ctx.effectiveZone value = some read := by
  simp only [cast_time_eq_ok_iff hnil]
  constructor
  · rintro ⟨_, read, hread, -⟩
    exact ⟨read, hread⟩
  · rintro ⟨read, hread⟩
    exact ⟨_, read, hread, rfl⟩

/-- A naive value is cast to the time at which a clock in the zone shows its reading. -/
theorem localReading?_of_cast_naive {reading : Reading} (h : Naive layout value reading)
    (hcast : (scalar head (.time layout)).cast ctx drawn value = .ok (.time moment)) :
    moment.localReading? = some reading := by
  obtain ⟨hoffset, read, hread, hutc⟩ := exists_readTime?_of_cast h.ne_nil hcast
  rw [h.readTime?, Moment.ofLocal?_eq_some_iff] at hread
  rw [← hread.1, Moment.localReading?, Moment.localReading?, Moment.localSeconds,
    Moment.localSeconds, hutc, hoffset, hread.2]

/-- **The active zone moves naive readings and nothing else.**  Times are shown in the zone, UTC
where there is none, and what is cast to them is absolute or naive.  An absolute value is cast in
every zone or in none, and always to the point in time that it stands for; a naive value is cast to
times with its reading, which are as far apart as the zones are. -/
theorem cast_time_zones (head : Head) (layout : Option String) (drawn : Nat) (value : Value) :
    (∀ ctx result, value ≠ .nil →
      (scalar head (.time layout)).cast ctx drawn value = .ok result →
        (∃ moment, result = .time moment ∧ moment.offset = ctx.zone.getD .utc) ∧
          (Absolute layout value ∨ ∃ reading, Naive layout value reading)) ∧
    (Absolute layout value → ∀ first second : Context,
      ((∃ result, (scalar head (.time layout)).cast first drawn value = .ok result) ↔
        ∃ result, (scalar head (.time layout)).cast second drawn value = .ok result) ∧
      ∀ a b, (scalar head (.time layout)).cast first drawn value = .ok (.time a) →
        (scalar head (.time layout)).cast second drawn value = .ok (.time b) → a.utc = b.utc) ∧
    (∀ seconds nano, StandsFor layout value seconds nano → ∀ ctx moment,
      (scalar head (.time layout)).cast ctx drawn value = .ok (.time moment) →
        moment.utc.seconds = seconds ∧ moment.utc.clock.nano = nano) ∧
    ∀ reading, Naive layout value reading → ∀ (first second : Context) (a b : Moment),
      (scalar head (.time layout)).cast first drawn value = .ok (.time a) →
      (scalar head (.time layout)).cast second drawn value = .ok (.time b) →
        a.localReading? = some reading ∧ b.localReading? = some reading ∧
          a.utc.seconds - b.utc.seconds = b.offset.seconds - a.offset.seconds ∧
            a.utc.clock.nano = b.utc.clock.nano := by
  refine ⟨fun ctx result hnil hcast => ?_, fun h first second => ⟨?_, fun a b ha hb => ?_⟩,
    fun seconds nano h ctx moment hcast => ?_, fun reading h first second a b ha hb => ?_⟩
  · obtain ⟨moment, hread, rfl⟩ := (cast_time_eq_ok_iff hnil).mp hcast
    exact ⟨⟨_, rfl, rfl⟩, Scalar.absolute_or_naive_of_readTime? hread⟩
  · rw [exists_cast_time_iff h.ne_nil, exists_cast_time_iff h.ne_nil,
      h.readTime? first.effectiveZone second.effectiveZone]
  · obtain ⟨-, read, hread, hutc⟩ := exists_readTime?_of_cast h.ne_nil ha
    obtain ⟨-, other, hother, hutc'⟩ := exists_readTime?_of_cast h.ne_nil hb
    rw [h.readTime? first.effectiveZone second.effectiveZone, hother] at hread
    rw [← hutc, ← hutc', Option.some.inj hread]
  · obtain ⟨-, read, hread, hutc⟩ := exists_readTime?_of_cast h.ne_nil hcast
    rw [← hutc]
    exact h.of_readTime? hread
  · have hlocal := localReading?_of_cast_naive h ha
    have hlocal' := localReading?_of_cast_naive h hb
    refine ⟨hlocal, hlocal', ?_⟩
    obtain ⟨hseconds, hnano⟩ := Moment.localReading?_eq_some_iff.mp hlocal
    obtain ⟨hseconds', hnano'⟩ := Moment.localReading?_eq_some_iff.mp hlocal'
    exact ⟨by omega, hnano.symm.trans hnano'⟩

def opensHead : Head :=
  ⟨"opens", "time", {}⟩

def opensOffset : Offset where
  seconds := 7200

def eastOffset : Offset where
  seconds := 10800

def eastContext : Context where
  zone := some eastOffset

def opens (second : Nat) (h : second < 86400 := by decide) : Reading :=
  ⟨⟨2024, 5, 17, by decide⟩, { second, nano := 0 }⟩

theorem cast_time_zones_opens :
    Absolute none (.string "2024-05-17T10:30:00+02:00") ∧
    (scalar opensHead (.time none)).cast eastContext 0 (.string "2024-05-17T10:30:00+02:00") =
      .ok (.time ⟨opens 30600, eastOffset⟩) ∧
    (∃ result, (scalar opensHead (.time none)).cast {} 0 (.string "2024-05-17T10:30:00+02:00") =
      .ok result) ∧
    (opens 30600).seconds = (opens 37800).seconds - opensOffset.seconds ∧
    Naive none (.string "2024-05-17 10:30") (opens 37800) ∧
    (scalar opensHead (.time none)).cast eastContext 0 (.string "2024-05-17 10:30") =
      .ok (.time ⟨opens 27000, eastOffset⟩) ∧
    (scalar opensHead (.time none)).cast {} 0 (.string "2024-05-17 10:30") =
      .ok (.time ⟨opens 37800, .utc⟩) ∧
    (⟨opens 27000, eastOffset⟩ : Moment).localReading? = some (opens 37800) ∧
    (opens 27000).seconds - (opens 37800).seconds = Offset.utc.seconds - eastOffset.seconds := by
  have hzoned : Parsed.read? none "2024-05-17T10:30:00+02:00" =
      some ⟨opens 37800, some opensOffset⟩ := by decide +kernel
  have hreads : Parsed.read? none "2024-05-17 10:30" = some ⟨opens 37800, none⟩ := by
    decide +kernel
  have habsolute : Absolute none (.string "2024-05-17T10:30:00+02:00") := .text hzoned rfl
  have hstands := StandsFor.text hzoned rfl
  have hnaive : Naive none (.string "2024-05-17 10:30") (opens 37800) := .text hreads rfl
  have hcastAbsolute : (scalar opensHead (.time none)).cast eastContext 0
      (.string "2024-05-17T10:30:00+02:00") =
        .ok (.time ⟨opens 30600, eastOffset⟩) := by
    refine (cast_time_eq_ok_iff (by simp)).mpr ⟨⟨opens 30600, opensOffset⟩, ?_, rfl⟩
    rw [Scalar.readTime?_text hzoned]
    decide +kernel
  have hcastEast : (scalar opensHead (.time none)).cast eastContext 0
      (.string "2024-05-17 10:30") = .ok (.time ⟨opens 27000, eastOffset⟩) := by
    refine (cast_time_eq_ok_iff (by simp)).mpr ⟨⟨opens 27000, eastOffset⟩, ?_, rfl⟩
    rw [Scalar.readTime?_text hreads]
    decide +kernel
  have hcastUtc : (scalar opensHead (.time none)).cast {} 0 (.string "2024-05-17 10:30") =
      .ok (.time ⟨opens 37800, .utc⟩) := by
    refine (cast_time_eq_ok_iff (by simp)).mpr ⟨⟨opens 37800, .utc⟩, ?_, rfl⟩
    rw [Scalar.readTime?_text hreads]
    decide +kernel
  obtain ⟨-, hzones, hown, -⟩ := cast_time_zones opensHead none 0
    (.string "2024-05-17T10:30:00+02:00")
  obtain ⟨-, -, -, hmoves⟩ := cast_time_zones opensHead none 0 (.string "2024-05-17 10:30")
  obtain ⟨hlocal, -, hapart, -⟩ := hmoves _ hnaive _ _ _ _ hcastEast hcastUtc
  exact ⟨habsolute, hcastAbsolute, (hzones habsolute eastContext {}).1.mp ⟨_, hcastAbsolute⟩,
    (hown _ _ hstands _ _ hcastAbsolute).1, hnaive, hcastEast, hcastUtc, hlocal, hapart⟩

/-! ### The kinds agree -/

theorem cast_date_eq_ok_iff (hnil : value ≠ .nil) :
    (scalar head (.date layout)).cast ctx drawn value = .ok result ↔
      ∃ date, Scalar.readDate? layout value = some date ∧ result = .date date :=
  cast_scalar_eq_ok_iff rfl hnil

theorem cast_dateTime_eq_ok_iff (hnil : value ≠ .nil) :
    (scalar head (.dateTime layout)).cast ctx drawn value = .ok result ↔
      ∃ moment, Scalar.readDateTime? layout value = some moment ∧ result = .dateTime moment :=
  cast_scalar_eq_ok_iff rfl hnil

theorem exists_cast_date_iff (h : Written value) :
    (∃ result, (scalar head (.date layout)).cast ctx drawn value = .ok result) ↔
      ∃ parsed, Scalar.calendar? layout value = some parsed := by
  simp only [cast_date_eq_ok_iff h.ne_nil, h.readDate?, Option.map_eq_some_iff]
  constructor
  · rintro ⟨_, _, ⟨parsed, hreads, -⟩, -⟩
    exact ⟨parsed, hreads⟩
  · rintro ⟨parsed, hreads⟩
    exact ⟨_, _, ⟨parsed, hreads, rfl⟩, rfl⟩

theorem exists_cast_dateTime_iff (h : Written value) :
    (∃ result, (scalar head (.dateTime layout)).cast ctx drawn value = .ok result) ↔
      ∃ parsed, Scalar.calendar? layout value = some parsed := by
  simp only [cast_dateTime_eq_ok_iff h.ne_nil]
  constructor
  · rintro ⟨_, moment, hmoment, -⟩
    rw [h.readDateTime?] at hmoment
    obtain ⟨parsed, hreads, -⟩ := Option.bind_eq_some_iff.mp hmoment
    exact ⟨parsed, hreads⟩
  · rintro ⟨parsed, hreads⟩
    obtain ⟨moment, hmoment⟩ := h.exists_readDateTime? hreads
    exact ⟨_, moment, hmoment, rfl⟩

/-- **Filters of dates, date-times and times agree on what is written.**  With one layout a filter
of dates accepts what a filter of date-times accepts, and its date is the local one of the date-time,
at the offset that was written if any was; in UTC a filter of times accepts the same and gives the
same point in time. -/
theorem cast_calendar_agree (dates dateTimes times : Head) (layout : Option String) (ctx : Context)
    (drawn : Nat) {value : Value} (hwritten : Written value) :
    ((∃ result, (scalar dates (.date layout)).cast ctx drawn value = .ok result) ↔
      ∃ result, (scalar dateTimes (.dateTime layout)).cast ctx drawn value = .ok result) ∧
    (∀ result, (scalar dateTimes (.dateTime layout)).cast ctx drawn value = .ok result →
      ∃ moment reading, result = .dateTime moment ∧ moment.localReading? = some reading ∧
        (scalar dates (.date layout)).cast ctx drawn value = .ok (.date reading.date) ∧
        ∀ s parsed offset, value = .string s → Parsed.read? layout s = some parsed →
          parsed.offset = some offset → moment.offset = offset) ∧
    (ctx.effectiveZone = .utc →
      ((∃ result, (scalar times (.time layout)).cast ctx drawn value = .ok result) ↔
        ∃ result, (scalar dateTimes (.dateTime layout)).cast ctx drawn value = .ok result) ∧
      ∀ a b, (scalar dateTimes (.dateTime layout)).cast ctx drawn value = .ok (.dateTime a) →
        (scalar times (.time layout)).cast ctx drawn value = .ok (.time b) → a.utc = b.utc) := by
  have hnil := hwritten.ne_nil
  refine ⟨?_, fun result hcast => ?_, fun hutc => ⟨?_, fun a b ha hb => ?_⟩⟩
  · rw [exists_cast_date_iff hwritten, exists_cast_dateTime_iff hwritten]
  · obtain ⟨moment, hmoment, rfl⟩ := (cast_dateTime_eq_ok_iff hnil).mp hcast
    rw [hwritten.readDateTime?] at hmoment
    obtain ⟨parsed, hreads, hmoment⟩ := Option.bind_eq_some_iff.mp hmoment
    obtain ⟨hlocal, hoffset⟩ := Parsed.inZone?_eq_some_iff.mp hmoment
    refine ⟨moment, parsed.reading, rfl, hlocal, ?_, ?_⟩
    · refine (cast_date_eq_ok_iff hnil).mpr ⟨_, ?_, rfl⟩
      rw [hwritten.readDate?, hreads, Option.map_some]
    · rintro s other offset rfl hother hzoned
      obtain rfl := Option.some.inj (hreads.symm.trans hother)
      rw [hoffset, hzoned, Option.getD_some]
  · rw [exists_cast_time_iff hnil, hwritten.readTime?_utc hutc]
    simp only [cast_dateTime_eq_ok_iff hnil]
    constructor
    · rintro ⟨moment, hmoment⟩
      exact ⟨_, moment, hmoment, rfl⟩
    · rintro ⟨_, moment, hmoment, -⟩
      exact ⟨moment, hmoment⟩
  · obtain ⟨moment, hmoment, hdateTime⟩ := (cast_dateTime_eq_ok_iff hnil).mp ha
    obtain ⟨-, read, hread, hsame⟩ := exists_readTime?_of_cast hnil hb
    rw [hwritten.readTime?_utc hutc, hmoment] at hread
    rw [Value.dateTime.inj hdateTime, ← hsame, Option.some.inj hread]

/-- The reading in UTC when it is 23:30 of the day before, two hours west. -/
def lateReading : Reading :=
  ⟨⟨2024, 5, 18, by decide⟩,
    { Calendar.Clock.midnight with second := 5400, second_lt := by decide }⟩

theorem cast_calendar_agree_opens :
    Written (.string "2024-05-17T23:30:00-02:00") ∧
    (scalar ⟨"at", "date_time", {}⟩ (.dateTime none)).cast {} 0
      (.string "2024-05-17T23:30:00-02:00") =
        .ok (.dateTime ⟨lateReading, { seconds := -7200 }⟩) ∧
    (scalar ⟨"on", "date", {}⟩ (.date none)).cast {} 0 (.string "2024-05-17T23:30:00-02:00") =
      .ok (.date ⟨2024, 5, 17, by decide⟩) ∧
    ∃ result, (scalar opensHead (.time none)).cast {} 0 (.string "2024-05-17T23:30:00-02:00") =
      .ok result := by
  have hwritten : Written (.string "2024-05-17T23:30:00-02:00") := .text _
  have hcast : (scalar ⟨"at", "date_time", {}⟩ (.dateTime none)).cast {} 0
      (.string "2024-05-17T23:30:00-02:00") =
        .ok (.dateTime ⟨lateReading, { seconds := -7200 }⟩) :=
    (cast_dateTime_eq_ok_iff (by simp)).mpr ⟨_, by decide +kernel, rfl⟩
  have hagree := cast_calendar_agree ⟨"on", "date", {}⟩ ⟨"at", "date_time", {}⟩ opensHead none {} 0
    hwritten
  obtain ⟨moment, reading, hmoment, hlocal, hdate, -⟩ := hagree.2.1 _ hcast
  obtain rfl := Value.dateTime.inj hmoment
  have hreading : reading.date = ⟨2024, 5, 17, by decide⟩ := by
    have hlate : (⟨lateReading, { seconds := -7200 }⟩ : Moment).localReading? =
        some (opens 84600) := by decide +kernel
    rw [← Option.some.inj (hlate.symm.trans hlocal)]
    rfl
  rw [hreading] at hdate
  exact ⟨hwritten, hcast, hdate, (hagree.2.2 rfl).1.mpr ⟨_, hcast⟩⟩

end Filter

end Intake
