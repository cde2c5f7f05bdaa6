import Intake.Proofs.Calendar.Text
import Intake.Proofs.Cast.Zone
import Intake.Value.Text

/-!
# Casts of the texts of dates and moments

The filters of dates, of date-times and of times, without a layout of their own, read back what
values show: `cast_calendar_text`.
-/

namespace Intake.Filter

open Calendar (Parsed Moment Reading)

/-- **The texts of dates and moments are cast to them**: those of all dates, and those of the
moments whose local year has four digits and whose offset has no seconds.  Fractions of a second
come back, and so do leap seconds.  Settling changes nothing but a billion nanoseconds at another
second than the last of a minute, which are written as the second after it. -/
theorem cast_calendar_text (head : Head) (ctx : Context) (drawn : Nat) :
    (∀ date, (scalar head (.date none)).cast ctx drawn (.string (Value.date date).text) =
      .ok (.date date)) ∧
    ∀ (moment : Moment) (reading : Reading), moment.localReading? = some reading →
      0 ≤ reading.date.year → reading.date.year ≤ 9999 → moment.offset.seconds % 60 = 0 →
        (scalar head (.dateTime none)).cast ctx drawn (.string (Value.dateTime moment).text) =
          .ok (.dateTime moment.settled) ∧
        (scalar head (.time none)).cast ctx drawn (.string (Value.dateTime moment).text) =
          .ok (.time (moment.settled.shownIn ctx.effectiveZone)) ∧
        (moment.settled = moment ↔
          (1000000000 ≤ moment.utc.clock.nano → moment.utc.clock.second % 60 = 59)) := by
  refine ⟨fun date => ?_, fun moment reading hlocal hyear hyear' hminutes => ?_⟩
  · have hreads : Parsed.read? none (Value.date date).text = some (.ofDate date) :=
      date.read?_text
    refine (cast_date_eq_ok_iff (by simp)).mpr ⟨date, ?_, rfl⟩
    rw [(Scalar.Written.text _).readDate?, Scalar.calendar?, hreads]
    rfl
  · have hreads : Parsed.read? none (Value.dateTime moment).text =
        some ⟨⟨reading.date, reading.clock.settled⟩, some moment.offset⟩ :=
      Moment.read?_text hlocal hyear hyear' hminutes
    have hmoment : ∀ zone, Scalar.readTime? none zone (.string (Value.dateTime moment).text) =
        some moment.settled := by
      intro zone
      rw [Scalar.readTime?_text hreads, Parsed.inZone?_eq_some_iff]
      exact ⟨Moment.localReading?_settled hlocal hminutes, rfl⟩
    refine ⟨?_, ?_, Moment.settled_eq_self_iff⟩
    · refine (cast_dateTime_eq_ok_iff (by simp)).mpr ⟨_, ?_, rfl⟩
      rw [← (Scalar.Written.text _).readTime?_utc rfl, hmoment]
    · exact (cast_time_eq_ok_iff (by simp)).mpr ⟨_, hmoment _, rfl⟩

/-- The first half of the last leap second of a year, eight hours west of UTC. -/
def yearsEnd : Moment where
  utc := ⟨⟨1990, 12, 31, by decide⟩, { second := 86399, nano := 1250000000 }⟩
  offset := { seconds := -28800 }

theorem cast_calendar_text_yearsEnd :
    (Value.dateTime yearsEnd).text = "1990-12-31T15:59:60.250-08:00" ∧
    (scalar ⟨"at", "date_time", {}⟩ (.dateTime none)).cast {} 0
      (.string "1990-12-31T15:59:60.250-08:00") = .ok (.dateTime yearsEnd) := by
  have htext : (Value.dateTime yearsEnd).text = "1990-12-31T15:59:60.250-08:00" := by
    decide +kernel
  have hlocal : yearsEnd.localReading? =
      some ⟨⟨1990, 12, 31, by decide⟩, { second := 57599, nano := 1250000000 }⟩ := by
    decide +kernel
  obtain ⟨hcast, -, hsettled⟩ := (cast_calendar_text ⟨"at", "date_time", {}⟩ {} 0).2 yearsEnd _
    hlocal (by decide) (by decide) (by decide)
  rw [htext, hsettled.mpr fun _ => rfl] at hcast
  exact ⟨htext, hcast⟩

/-- Half a second into a leap second that follows the thirtieth second of a minute.  Clocks that are
set by odd seconds show such moments when UTC has a leap second. -/
def leapInMinute : Moment where
  utc := ⟨⟨2024, 1, 1, by decide⟩, { second := 30, nano := 1500000000 }⟩
  offset := .utc

def halfPast : Moment where
  utc := ⟨⟨2024, 1, 1, by decide⟩, { second := 31, nano := 500000000 }⟩
  offset := .utc

/-- Inside a minute the text of a leap second is that of the second after it, and is read as that. -/
theorem leapInMinute_not_read_back :
    leapInMinute.localReading? = some leapInMinute.utc ∧ leapInMinute.utc.date.year = 2024 ∧
    leapInMinute.offset.seconds % 60 = 0 ∧
    (Value.dateTime leapInMinute).text = "2024-01-01T00:00:31.500+00:00" ∧
    (scalar ⟨"at", "date_time", {}⟩ (.dateTime none)).cast {} 0
      (.string "2024-01-01T00:00:31.500+00:00") = .ok (.dateTime halfPast) ∧
    halfPast ≠ leapInMinute := by
  refine ⟨?_, rfl, rfl, ?_, rfl, by decide⟩
  · decide +kernel
  · decide +kernel

end Intake.Filter
