import Intake.Calendar.Parsed
import Intake.Proofs.Calendar.DayNumber

/-!
# Moments and what clocks show

The local reading of a moment is what a clock at its offset shows.  A reading and an offset have one
moment, where the calendar has it at all: `Moment.ofLocal?_eq_some_iff`.

A reading that a text gives with an offset has its moment: `Parsed.placed_of_read?`.
-/

namespace Intake.Calendar

/-! ### Readings as seconds -/

theorem Clock.ext {a b : Clock} (hsecond : a.second = b.second) (hnano : a.nano = b.nano) :
    a = b := by
  cases a
  cases b
  simp_all

theorem Clock.ofParts?_eq_some_iff {hour minute second nano : Nat} {clock : Clock} :
    ofParts? hour minute second nano = some clock ↔
      (hour < 24 ∧ minute < 60 ∧ second < 60 ∧ nano < 2000000000) ∧
        clock.second = hour * 3600 + minute * 60 + second ∧ clock.nano = nano := by
  unfold ofParts?
  split
  · next hparts =>
    rw [Option.some.injEq]
    constructor
    · rintro rfl
      exact ⟨hparts, rfl, rfl⟩
    · rintro ⟨-, hsecond, hnano⟩
      exact Clock.ext hsecond.symm hnano.symm
  · next hparts => simp [hparts]

/-- **Seconds have the reading that they are counted to**, and no other. -/
theorem Reading.ofSeconds?_eq_some_iff {seconds : Int} {nano : Nat} {reading : Reading} :
    ofSeconds? seconds nano = some reading ↔
      reading.seconds = seconds ∧ reading.clock.nano = nano := by
  have hlt := reading.clock.second_lt
  simp only [ofSeconds?, Option.bind_eq_some_iff, Date.ofNumber?_eq_some_iff, Reading.seconds]
  constructor
  · rintro ⟨date, hdate, h⟩
    split at h
    · obtain rfl := Option.some.inj h
      refine ⟨?_, rfl⟩
      simp only
      omega
    · exact absurd h (by simp)
  · rintro ⟨hseconds, hnano⟩
    refine ⟨reading.date, by omega, ?_⟩
    rw [dif_pos (hnano ▸ reading.clock.nano_lt)]
    refine congrArg some ?_
    rw [Reading.mk.injEq]
    refine ⟨rfl, Clock.ext ?_ hnano.symm⟩
    simp only
    omega

/-! ### The local reading of a moment -/

namespace Moment

/-- What a clock at the offset of a moment shows, if the calendar has it. -/
def localReading? (moment : Moment) : Option Reading :=
  Reading.ofSeconds? moment.localSeconds moment.utc.clock.nano

variable {moment : Moment} {reading : Reading} {offset : Offset}

theorem localReading?_eq_some_iff :
    moment.localReading? = some reading ↔
      reading.seconds = moment.utc.seconds + moment.offset.seconds ∧
        reading.clock.nano = moment.utc.clock.nano :=
  Reading.ofSeconds?_eq_some_iff

/-- **A reading and an offset have one moment**, the one with this local reading. -/
theorem ofLocal?_eq_some_iff :
    ofLocal? reading offset = some moment ↔
      moment.localReading? = some reading ∧ moment.offset = offset := by
  simp only [ofLocal?, Option.map_eq_some_iff, Reading.ofSeconds?_eq_some_iff,
    localReading?_eq_some_iff]
  constructor
  · rintro ⟨utc, ⟨hseconds, hnano⟩, rfl⟩
    refine ⟨⟨?_, hnano.symm⟩, rfl⟩
    simp only
    omega
  · rintro ⟨⟨hseconds, hnano⟩, rfl⟩
    exact ⟨moment.utc, ⟨by omega, hnano.symm⟩, rfl⟩

/-- In UTC every reading has its moment. -/
theorem ofLocal?_utc (reading : Reading) : ofLocal? reading .utc = some ⟨reading, .utc⟩ := by
  rw [ofLocal?_eq_some_iff, localReading?_eq_some_iff]
  exact ⟨⟨(Int.add_zero _).symm, rfl⟩, rfl⟩

theorem ofEpoch?_eq_some_iff {seconds : Int} {nano : Nat} :
    ofEpoch? seconds nano = some moment ↔
      moment.utc.seconds = seconds ∧ moment.utc.clock.nano = nano ∧ moment.offset = .utc := by
  simp only [ofEpoch?, Option.map_eq_some_iff, Reading.ofSeconds?_eq_some_iff]
  constructor
  · rintro ⟨utc, ⟨hseconds, hnano⟩, rfl⟩
    exact ⟨hseconds, hnano, rfl⟩
  · rintro ⟨hseconds, hnano, hoffset⟩
    exact ⟨moment.utc, ⟨hseconds, hnano⟩, by rw [← hoffset]⟩

end Moment

/-! ### What texts are read as -/

namespace Parsed

variable {parsed : Parsed} {zone : Offset} {moment : Moment}

theorem inZone?_eq_some_iff :
    parsed.inZone? zone = some moment ↔
      moment.localReading? = some parsed.reading ∧ moment.offset = parsed.offset.getD zone :=
  Moment.ofLocal?_eq_some_iff

/-- A reading with an offset has its moment. -/
def Placed (parsed : Parsed) : Prop :=
  ∀ offset, parsed.offset = some offset →
    ∃ moment, Moment.ofLocal? parsed.reading offset = some moment

theorem placed_of_zoned? {fields : Fields} (h : fields.zoned? = some parsed) : parsed.Placed := by
  have hplaced : ∀ seconds : Int, ((fields.reading? seconds).bind fun reading =>
      (Offset.ofSeconds? seconds).bind fun offset =>
        (Moment.ofLocal? reading offset).bind fun _ => some ⟨reading, some offset⟩) =
          some parsed → parsed.Placed := by
    intro seconds h
    simp only [Option.bind_eq_some_iff] at h
    obtain ⟨reading, -, offset, -, moment, hmoment, h⟩ := h
    obtain rfl := Option.some.inj h
    rintro _ ⟨⟩
    exact ⟨moment, hmoment⟩
  unfold Fields.zoned? at h
  split at h
  · exact hplaced _ h
  · exact hplaced _ h
  · exact absurd h (by simp)

theorem placed_of_naive? {fields : Fields} (h : fields.naive? = some parsed) : parsed.Placed := by
  obtain ⟨reading, -, rfl⟩ := Option.map_eq_some_iff.mp h
  rintro _ ⟨⟩

theorem placed_of_dateOnly? {fields : Fields} (h : fields.dateOnly? = some parsed) :
    parsed.Placed := by
  obtain ⟨date, -, rfl⟩ := Option.map_eq_some_iff.mp h
  rintro _ ⟨⟩

theorem placed_of_readWith? {resolve : Fields → Option Parsed} {cs : List Char} {layout : String}
    (hresolve : ∀ {fields : Fields}, resolve fields = some parsed → parsed.Placed)
    (h : readWith? resolve cs layout = some parsed) : parsed.Placed := by
  simp only [readWith?, Option.bind_eq_some_iff] at h
  obtain ⟨items, -, fields, -, hparsed⟩ := h
  exact hresolve hparsed

theorem placed_of_findSome? {resolve : Fields → Option Parsed} {cs : List Char}
    {layouts : List String}
    (hresolve : ∀ {fields : Fields}, resolve fields = some parsed → parsed.Placed)
    (h : layouts.findSome? (readWith? resolve cs) = some parsed) : parsed.Placed := by
  obtain ⟨layout, -, h⟩ := List.exists_of_findSome?_eq_some h
  exact placed_of_readWith? hresolve h

theorem placed_of_withLayout? {cs : List Char} {layout : String}
    (h : withLayout? cs layout = some parsed) : parsed.Placed := by
  refine placed_of_readWith? (fun hparsed => ?_) h
  simp only [Option.orElse_eq_orElse, Option.orElse_eq_or, Option.or_eq_some_iff] at hparsed
  rcases hparsed with hzoned | ⟨-, hnaive | ⟨-, hdate⟩⟩
  · exact placed_of_zoned? hzoned
  · exact placed_of_naive? hnaive
  · exact placed_of_dateOnly? hdate

theorem placed_of_common? {cs : List Char} (h : common? cs = some parsed) : parsed.Placed := by
  simp only [common?, Option.orElse_eq_orElse, Option.orElse_eq_or, Option.or_eq_some_iff] at h
  rcases h with hrfc | ⟨-, hzoned | ⟨-, hnaive | ⟨-, hdate⟩⟩⟩
  · obtain ⟨fields, -, hparsed⟩ := Option.bind_eq_some_iff.mp hrfc
    exact placed_of_zoned? hparsed
  · exact placed_of_findSome? placed_of_zoned? hzoned
  · exact placed_of_findSome? placed_of_naive? hnaive
  · exact placed_of_findSome? placed_of_dateOnly? hdate

/-- **What is read of a text has its moment**, if an offset was read. -/
theorem placed_of_read? {layout : Option String} {s : String} (h : read? layout s = some parsed) :
    parsed.Placed := by
  cases layout with
  | none => exact placed_of_common? h
  | some layout => exact placed_of_withLayout? h

/-- Where it has no offset of its own, it has a moment in UTC. -/
theorem Placed.exists_inZone? (h : parsed.Placed) (hzone : parsed.offset = none → zone = .utc) :
    ∃ moment, parsed.inZone? zone = some moment := by
  cases hoffset : parsed.offset with
  | none =>
    rw [inZone?, hoffset, Option.getD_none, hzone hoffset, Moment.ofLocal?_utc]
    exact ⟨_, rfl⟩
  | some offset =>
    rw [inZone?, hoffset, Option.getD_some]
    exact h offset hoffset

end Parsed

end Intake.Calendar
