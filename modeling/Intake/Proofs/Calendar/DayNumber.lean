import Intake.Calendar.Date
import Mathlib.Tactic.IntervalCases

/-!
# Day numbers

A date comes back from its day number, and a day number from its date: `Date.ofNumber?_eq_some_iff`.

A year is taken to start in March, so that a leap day is its last day, and 400 such years make an
era.  `InEra` bounds the year of an era and the day of the year, and all that is said of day numbers
rests on it: what the years before a day take away (`InEra.centuries`, `InEra.leapDays`) is what the
reader of day numbers puts back (`InEra.yearOfEra`).
-/

namespace Intake.Calendar

/-! ### Eras -/

/-- The day of the era, from the year of the era and the day of the year. -/
def dayOfEra (y d : Int) : Int :=
  y * 365 + y / 4 - y / 100 + d

/-- A day of a year of an era.  Only leap years have the last day. -/
structure InEra (y d : Int) : Prop where
  year_nonneg : 0 ≤ y
  year_lt : y < 400
  day_nonneg : 0 ≤ d
  day_le : d ≤ 365
  leap : d = 365 → y % 4 = 3 ∧ (y % 100 = 99 → y = 399)

namespace InEra

variable {y d : Int}

theorem dayOfEra_nonneg (h : InEra y d) : 0 ≤ dayOfEra y d := by
  have := h.year_nonneg
  have := h.day_nonneg
  rw [dayOfEra]
  omega

/-- A century has 36524 days, and the last one of an era has one more. -/
theorem dayOfEra_lt (h : InEra y d) :
    dayOfEra y d < 36524 * (y / 100 + 1) ∨ y / 100 = 3 ∧ dayOfEra y d = 146096 := by
  have := h.year_nonneg
  have := h.year_lt
  have := h.day_le
  rw [dayOfEra]
  by_cases hlast : d = 365
  · have := h.leap hlast
    omega
  · omega

/-- The centuries before a day. -/
theorem centuries (h : InEra y d) :
    dayOfEra y d / 36524 - dayOfEra y d / 146096 = y / 100 := by
  have hnonneg := h.dayOfEra_nonneg
  have hlt := h.dayOfEra_lt
  have hle : 36524 * (y / 100) ≤ dayOfEra y d := by
    have := h.day_nonneg
    rw [dayOfEra]
    omega
  have := h.year_lt
  generalize dayOfEra y d = day at *
  rcases hlt with hlt | ⟨hcentury, rfl⟩
  · have hera : day / 146096 = 0 := by omega
    have hcentury : day / 36524 = y / 100 := by omega
    omega
  · rw [hcentury]
    rfl

/-- The leap days before a day.  Late in a year of 366 days one more is counted. -/
theorem leapDays (h : InEra y d) :
    dayOfEra y d / 1460 = y / 4 + if y % 4 = 3 ∧ 365 ≤ d + y / 4 - y / 100 then 1 else 0 := by
  have := h.year_nonneg
  have := h.year_lt
  have := h.day_nonneg
  have := h.day_le
  rw [dayOfEra]
  split <;> omega

theorem yearOfEra (h : InEra y d) :
    (dayOfEra y d - dayOfEra y d / 1460 + dayOfEra y d / 36524 - dayOfEra y d / 146096) / 365 =
      y := by
  have hcenturies := h.centuries
  have hleapDays := h.leapDays
  have hday : dayOfEra y d = y * 365 + y / 4 - y / 100 + d := rfl
  have := h.year_nonneg
  have := h.year_lt
  have := h.day_nonneg
  have := h.day_le
  have := h.leap
  generalize dayOfEra y d = day at *
  split at hleapDays <;> omega

end InEra

/-- Every day of an era is a day of one of its years. -/
theorem exists_inEra {day : Int} (hnonneg : 0 ≤ day) (hlt : day < 146097) :
    ∃ y d, InEra y d ∧ dayOfEra y d = day := by
  -- the century, the four years of the century, the year of the four; 3 where there is a day more
  obtain ⟨c, hc⟩ : ∃ c, c = min 3 (day / 36524) := ⟨_, rfl⟩
  obtain ⟨q, hq⟩ : ∃ q, q = (day - 36524 * c) / 1461 := ⟨_, rfl⟩
  obtain ⟨r, hr⟩ : ∃ r, r = min 3 ((day - 36524 * c - 1461 * q) / 365) := ⟨_, rfl⟩
  have hcentury : 0 ≤ c ∧ c ≤ 3 ∧ 0 ≤ day - 36524 * c ∧ day - 36524 * c ≤ 36524 ∧
      (day - 36524 * c = 36524 → c = 3) := by omega
  have hfour : 0 ≤ q ∧ q ≤ 24 ∧ 0 ≤ day - 36524 * c - 1461 * q ∧
      day - 36524 * c - 1461 * q ≤ 1460 := by omega
  have hyear : 0 ≤ r ∧ r ≤ 3 ∧ 0 ≤ day - 36524 * c - 1461 * q - 365 * r ∧
      day - 36524 * c - 1461 * q - 365 * r ≤ 365 ∧
      (day - 36524 * c - 1461 * q - 365 * r = 365 → r = 3) := by omega
  clear hc hq hr
  have hfours : (100 * c + 4 * q + r) / 4 = 25 * c + q := by omega
  have hcenturies : (100 * c + 4 * q + r) / 100 = c := by omega
  refine ⟨100 * c + 4 * q + r, day - 36524 * c - 1461 * q - 365 * r, ⟨?_, ?_, ?_, ?_, ?_⟩, ?_⟩
  · omega
  · omega
  · omega
  · omega
  · omega
  · rw [dayOfEra, hfours, hcenturies]
    omega

/-! ### Years from March -/

/-- The month of a year that starts in March, from zero. -/
def monthFromMarch (month : Nat) : Int :=
  (month + 9) % 12

/-- The days before a month of a year that starts in March. -/
def daysBefore (m : Int) : Int :=
  (153 * m + 2) / 5

/-- The year that a month belongs to when years start in March. -/
def yearFromMarch (year : Int) (month : Nat) : Int :=
  if month ≤ 2 then year - 1 else year

/-- The day of a year that starts in March, from zero. -/
def dayFromMarch (month day : Nat) : Int :=
  daysBefore (monthFromMarch month) + day - 1

theorem dayNumber_eq (year : Int) (month day : Nat) :
    dayNumber year month day = yearFromMarch year month / 400 * 146097 +
      dayOfEra (yearFromMarch year month % 400) (dayFromMarch month day) - 719468 :=
  rfl

section IsDate

variable {year : Int} {month day : Nat}

/-- The days of a month are before the next month; February may have one more than 28. -/
theorem day_le_of_isDate (h : IsDate year month day) :
    daysBefore (monthFromMarch month) + day ≤ daysBefore (monthFromMarch month + 1) ∧
      (month = 2 → day ≤ 28 ∨ day = 29 ∧ isLeap year = true) := by
  obtain ⟨-, -, hmonth, hmonth', -, hday⟩ := h
  unfold daysInMonth at hday
  interval_cases month <;> simp [daysBefore, monthFromMarch] at hday ⊢ <;> grind

/-- The last day of a year from March is a leap day. -/
theorem leapDay_of_isDate (h : IsDate year month day) (hlast : dayFromMarch month day = 365) :
    month = 2 ∧ isLeap year = true := by
  obtain ⟨hle, hfebruary⟩ := day_le_of_isDate h
  obtain ⟨-, -, hmonth, hmonth', -, -⟩ := h
  have hmonthTwo : month = 2 := by
    simp only [dayFromMarch, daysBefore, monthFromMarch] at hle hlast
    omega
  subst hmonthTwo
  refine ⟨rfl, ?_⟩
  rcases hfebruary rfl with hle | ⟨-, hleap⟩
  · simp [dayFromMarch, daysBefore, monthFromMarch] at hlast
    omega
  · exact hleap

theorem inEra_of_isDate (h : IsDate year month day) :
    InEra (yearFromMarch year month % 400) (dayFromMarch month day) := by
  obtain ⟨hle, hfebruary⟩ := day_le_of_isDate h
  have hlast := leapDay_of_isDate h
  obtain ⟨-, -, hmonth, hmonth', hday, -⟩ := h
  refine ⟨by omega, by omega, ?_, ?_, fun hd => ?_⟩
  · simp only [dayFromMarch, daysBefore, monthFromMarch]
    omega
  · simp only [dayFromMarch, daysBefore, monthFromMarch] at hle ⊢
    omega
  · obtain ⟨rfl, hleap⟩ := hlast hd
    simp [isLeap] at hleap
    simp [yearFromMarch]
    omega

theorem monthFromMarch_of_isDate (h : IsDate year month day) :
    (5 * dayFromMarch month day + 2) / 153 = monthFromMarch month := by
  have hle := (day_le_of_isDate h).1
  have hday := h.2.2.2.2.1
  simp only [daysBefore, monthFromMarch, dayFromMarch] at hle ⊢
  omega

end IsDate

/-! ### Back and forth -/

theorem civil_of_inEra {y d : Int} (h : InEra y d) (era : Int) :
    civil (era * 146097 + dayOfEra y d - 719468) =
      let m := (5 * d + 2) / 153
      let month := if m < 10 then m + 3 else m - 9
      let year := y + era * 400
      (if month ≤ 2 then year + 1 else year, month.toNat, (d - daysBefore m + 1).toNat) := by
  have hnonneg := h.dayOfEra_nonneg
  have hlt := h.dayOfEra_lt
  have := h.year_lt
  have hera : (era * 146097 + dayOfEra y d - 719468 + 719468) / 146097 = era := by omega
  have hday : (era * 146097 + dayOfEra y d - 719468 + 719468) % 146097 = dayOfEra y d := by omega
  have hrest : dayOfEra y d - (365 * y + y / 4 - y / 100) = d := by
    rw [dayOfEra]
    omega
  simp only [civil, hera, hday, h.yearOfEra, hrest, daysBefore]

theorem civil_dayNumber {year : Int} {month day : Nat} (h : IsDate year month day) :
    civil (dayNumber year month day) = (year, month, day) := by
  rw [dayNumber_eq, civil_of_inEra (inEra_of_isDate h), monthFromMarch_of_isDate h]
  obtain ⟨-, -, hmonth, hmonth', -, -⟩ := h
  have hday : (dayFromMarch month day - daysBefore (monthFromMarch month) + 1).toNat = day := by
    rw [dayFromMarch]
    omega
  simp only [hday, Prod.mk.injEq, and_true]
  simp only [monthFromMarch, yearFromMarch]
  omega

theorem dayNumber_civil (n : Int) : dayNumber (civil n).1 (civil n).2.1 (civil n).2.2 = n := by
  have hnonneg : 0 ≤ (n + 719468) % 146097 := by omega
  have hlt : (n + 719468) % 146097 < 146097 := by omega
  obtain ⟨y, d, hera, hday⟩ := exists_inEra hnonneg hlt
  obtain ⟨era, hn⟩ : ∃ era, n = era * 146097 + dayOfEra y d - 719468 :=
    ⟨(n + 719468) / 146097, by omega⟩
  have hd := hera.day_nonneg
  have hd' := hera.day_le
  obtain ⟨m, hm⟩ : ∃ m, m = (5 * d + 2) / 153 := ⟨_, rfl⟩
  have hbefore : 0 ≤ m ∧ m ≤ 11 ∧ daysBefore m ≤ d := by
    rw [daysBefore]
    omega
  obtain ⟨month, hmonth⟩ : ∃ month, month = if m < 10 then m + 3 else m - 9 := ⟨_, rfl⟩
  have hmonthBack : monthFromMarch month.toNat = m := by
    rw [monthFromMarch, hmonth]
    split <;> omega
  have hyearBack : yearFromMarch (if month ≤ 2 then y + era * 400 + 1 else y + era * 400)
      month.toNat = y + era * 400 := by
    have hiff : month.toNat ≤ 2 ↔ month ≤ 2 := by omega
    simp only [yearFromMarch, hiff]
    split <;> omega
  have hdayBack : dayFromMarch month.toNat (d - daysBefore m + 1).toNat = d := by
    rw [dayFromMarch, hmonthBack]
    omega
  have hy := hera.year_nonneg
  have hy' := hera.year_lt
  have heraBack : (y + era * 400) / 400 = era := by omega
  have hyearOfEra : (y + era * 400) % 400 = y := by omega
  rw [hn, civil_of_inEra hera, dayNumber_eq]
  simp only [← hm, ← hmonth, hyearBack, hdayBack, heraBack, hyearOfEra]

namespace Date

theorem ofCivil?_eq_some_iff {year : Int} {month day : Nat} {date : Date} :
    ofCivil? year month day = some date ↔
      date.year = year ∧ date.month = month ∧ date.day = day := by
  unfold ofCivil?
  constructor
  · intro h
    split at h
    · rw [← Option.some.inj h]
      exact ⟨rfl, rfl, rfl⟩
    · exact absurd h (by simp)
  · rintro ⟨rfl, rfl, rfl⟩
    rw [dif_pos date.isDate]

/-- **A day number has the date that it is the number of**, and no other. -/
theorem ofNumber?_eq_some_iff {n : Int} {date : Date} :
    ofNumber? n = some date ↔ date.number = n := by
  rw [ofNumber?, ofCivil?_eq_some_iff, number]
  constructor
  · rintro ⟨hyear, hmonth, hday⟩
    rw [hyear, hmonth, hday, dayNumber_civil]
  · rintro rfl
    rw [civil_dayNumber date.isDate]
    exact ⟨rfl, rfl, rfl⟩

end Date

end Intake.Calendar
