import Intake.Batch
import Intake.Proofs.Processing
import Mathlib.Logic.Relation

/-!
# The tasks of a batch

The tasks of a batch work in any order.  A task validates the input of one filter after the other;
for a lazy default it finds the resolutions of all tasks so far.  Then it completes, unless it
panics.  When all tasks are spawned, they are joined as they end, and a report goes into the slot of
its position: `Step`.  Every run ends (`wellFounded_step`).

`Accounted` is what every step keeps.  The reports are those of validations, each at the position of
its inputs, and only where a task panics there is none: `Accounted.getElem?_reports`.
-/

namespace Intake

/-- A task, which validates the inputs at a position of a batch. -/
structure Task where
  position : Nat
  inputs : Entries Value
  /-- The filters whose inputs are not validated yet. -/
  left : List Filter
  report : Report := []

/-- The task when the next filter is done, the others are left. -/
def Task.advance (task : Task) (ctx : Context) (tally : Tally) (filter : Filter)
    (left : List Filter) : Task :=
  { task with left, report := task.report ++ filter.validate ctx tally task.inputs }

structure Batch where
  /-- The tasks that are not spawned yet. -/
  waiting : List Task
  running : List Task := []
  /-- What the tasks give that are not joined yet: a report with its position, or nothing. -/
  ended : List (Option (Nat × Report)) := []
  /-- What was joined, position by position. -/
  slots : List (Option Report)
  tally : Tally

namespace Batch

def start (set : FilterSet) (tally : Tally) (batch : List (Entries Value)) : Batch where
  waiting := batch.mapIdx fun position inputs => ⟨position, inputs, set.filters, []⟩
  slots := List.replicate batch.length none
  tally

/-- Puts what a task gives into the slot of its position. -/
def place (slots : List (Option Report)) : Option (Nat × Report) → List (Option Report)
  | some (position, report) => slots.set position (some report)
  | none => slots

def Finished (s : Batch) : Prop :=
  s.waiting = [] ∧ s.running = [] ∧ s.ended = []

def reports (s : Batch) : List Report :=
  s.slots.map fun report => report.getD taskFailed

/-- What can happen next.  Only the tasks at the positions in `panics` may panic. -/
inductive Step (ctx : Context) (panics : Nat → Prop) (s : Batch) : Batch → Prop where
  | spawn (task : Task) (rest : List Task) (h : s.waiting = task :: rest) :
      Step ctx panics s { s with waiting := rest, running := s.running ++ [task] }
  | advance (before after : List Task) (task : Task) (filter : Filter) (left : List Filter)
      (h : s.running = before ++ task :: after) (hleft : task.left = filter :: left) :
      Step ctx panics s
        { s with
          running := before ++ task.advance ctx s.tally filter left :: after
          tally :=
            s.tally.add filter.name (filter.castDraws (task.inputs.value filter.name)) }
  | complete (before after : List Task) (task : Task) (h : s.running = before ++ task :: after)
      (hleft : task.left = []) :
      Step ctx panics s
        { s with
          running := before ++ after
          ended := s.ended ++ [some (task.position, task.report)] }
  | panic (before after : List Task) (task : Task) (h : s.running = before ++ task :: after)
      (hpanics : panics task.position) :
      Step ctx panics s { s with running := before ++ after, ended := s.ended ++ [none] }
  | join (before after : List (Option (Nat × Report))) (given : Option (Nat × Report))
      (hwaiting : s.waiting = []) (h : s.ended = before ++ given :: after) :
      Step ctx panics s { s with ended := before ++ after, slots := place s.slots given }

/-- What can come of a batch, whichever task goes on at any time. -/
def Reaches (ctx : Context) (panics : Nat → Prop) : Batch → Batch → Prop :=
  Relation.ReflTransGen (Step ctx panics)

variable {set : FilterSet} {ctx : Context} {panics : Nat → Prop} {batch : List (Entries Value)}
  {s t : Batch}

/-! ### Every run ends -/

/-- How much is left to do. -/
def work (s : Batch) : Nat :=
  ((s.waiting ++ s.running).flatMap Task.left).length + 3 * s.waiting.length +
    2 * s.running.length + s.ended.length

theorem Step.work_lt (h : Step ctx panics s t) : t.work < s.work := by
  cases h with
  | spawn task rest h =>
    simp only [work, h, List.flatMap_append, List.flatMap_cons, List.flatMap_nil,
      List.length_append, List.length_cons, List.length_nil]
    omega
  | advance before after task filter left h hleft =>
    simp only [work, h, hleft, Task.advance, List.flatMap_append, List.flatMap_cons,
      List.length_append, List.length_cons]
    omega
  | complete before after task h hleft =>
    simp only [work, h, List.flatMap_append, List.flatMap_cons, List.length_append,
      List.length_cons, List.length_nil]
    omega
  | panic before after task h hpanics =>
    simp only [work, h, List.flatMap_append, List.flatMap_cons, List.length_append,
      List.length_cons, List.length_nil]
    omega
  | join before after given hwaiting h =>
    simp only [work, h, List.length_append, List.length_cons]
    omega

theorem wellFounded_step (ctx : Context) (panics : Nat → Prop) :
    WellFounded fun t s => Step ctx panics s t :=
  Subrelation.wf Step.work_lt (measure work).wf

theorem exists_step (ctx : Context) (panics : Nat → Prop) (h : ¬s.Finished) :
    ∃ t, Step ctx panics s t := by
  cases hwaiting : s.waiting with
  | cons task rest => exact ⟨_, .spawn task rest hwaiting⟩
  | nil =>
    cases hrunning : s.running with
    | cons task rest =>
      cases hleft : task.left with
      | nil => exact ⟨_, .complete [] rest task hrunning hleft⟩
      | cons filter left => exact ⟨_, .advance [] rest task filter left hrunning hleft⟩
    | nil =>
      cases hended : s.ended with
      | cons given rest => exact ⟨_, .join [] rest given hwaiting hended⟩
      | nil => exact absurd ⟨hwaiting, hrunning, hended⟩ h

end Batch

/-! ### What is found by other tasks -/

theorem Tally.drawn_insert_self (tally : Tally) (name : String) (n : Nat) :
    Tally.drawn (tally.insert name n) name = n := by
  rw [drawn, Entries.get?_insert_self, Option.getD_some]

theorem Tally.drawn_insert_of_ne (tally : Tally) {name other : String} (h : name ≠ other)
    (n : Nat) : Tally.drawn (tally.insert name n) other = tally.drawn other := by
  rw [drawn, drawn, Entries.get?_insert_of_ne _ h]

/-- What a tally counts was not taken back until a later one. -/
def Tally.Precedes (tally later : Tally) : Prop :=
  ∀ name, tally.drawn name ≤ later.drawn name

theorem Tally.Precedes.refl (tally : Tally) : tally.Precedes tally :=
  fun _ => Nat.le_refl _

theorem Tally.Precedes.trans {a b c : Tally} (h : a.Precedes b) (h' : b.Precedes c) :
    a.Precedes c :=
  fun name => Nat.le_trans (h name) (h' name)

theorem Tally.precedes_add (tally : Tally) (name : String) (n : Nat) :
    tally.Precedes (tally.add name n) := by
  intro other
  by_cases h : name = other
  · rw [← h, add, drawn_insert_self]
    exact Nat.le_add_right _ _
  · exact Nat.le_of_eq (drawn_insert_of_ne tally h _).symm

/-- A filter looks only at how often its own default was resolved. -/
theorem Filter.validate_congr {filter : Filter} {tally later : Tally}
    (h : tally.drawn filter.name = later.drawn filter.name) (ctx : Context)
    (inputs : Entries Value) :
    filter.validate ctx tally inputs = filter.validate ctx later inputs := by
  rw [validate, validate, h]

/-- What other filters find does not matter to filters. -/
theorem Filter.flatMap_validate_insert {filters : List Filter} {name : String}
    (h : name ∉ filters.map Filter.name) (ctx : Context) (tally : Tally) (n : Nat)
    (inputs : Entries Value) :
    (filters.flatMap fun filter => filter.validate ctx (tally.insert name n) inputs) =
      filters.flatMap fun filter => filter.validate ctx tally inputs := by
  refine List.flatMap_congr fun filter hf => validate_congr ?_ ctx inputs
  refine Tally.drawn_insert_of_ne tally (fun he => h ?_) n
  rw [he]
  exact List.mem_map_of_mem hf

namespace Batch

variable {set : FilterSet} {ctx : Context} {panics : Nat → Prop} {batch : List (Entries Value)}
  {s t : Batch}

/-! ### What every step keeps -/

/-- The report of a validation of the inputs at a position, at a time between two others. -/
def ReportAt (set : FilterSet) (ctx : Context) (batch : List (Entries Value)) (first last : Tally)
    (position : Nat) (report : Report) : Prop :=
  ∃ inputs found, batch[position]? = some inputs ∧ first.Precedes found ∧ found.Precedes last ∧
    report = set.validate ctx found inputs

/-- A task has the inputs at its position and tells what is wrong with them as far as it has come. -/
def OnTrack (set : FilterSet) (ctx : Context) (batch : List (Entries Value)) (first last : Tally)
    (task : Task) : Prop :=
  ∃ past found, set.filters = past ++ task.left ∧ batch[task.position]? = some task.inputs ∧
    first.Precedes found ∧ found.Precedes last ∧
    task.report = past.flatMap fun filter => filter.validate ctx found task.inputs

/-- There is a task for a position, or there is its report. -/
def Has (s : Batch) (position : Nat) : Prop :=
  position ∈ (s.waiting ++ s.running).map Task.position ∨
    position ∈ s.ended.filterMap (Option.map Prod.fst) ∨
      ∃ report, s.slots[position]? = some (some report)

/-- All positions are accounted for: no report is wrong, and none is lost. -/
structure Accounted (set : FilterSet) (ctx : Context) (panics : Nat → Prop)
    (batch : List (Entries Value)) (first : Tally) (s : Batch) : Prop where
  size : s.slots.length = batch.length
  since : first.Precedes s.tally
  tasks : ∀ task ∈ s.waiting ++ s.running, OnTrack set ctx batch first s.tally task
  ended : ∀ i report, some (i, report) ∈ s.ended → ReportAt set ctx batch first s.tally i report
  slots : ∀ i report, s.slots[i]? = some (some report) →
    ReportAt set ctx batch first s.tally i report
  has : ∀ i < batch.length, ¬panics i → s.Has i

variable {first last later : Tally}

theorem ReportAt.mono {position : Nat} {report : Report}
    (h : ReportAt set ctx batch first last position report) (hle : last.Precedes later) :
    ReportAt set ctx batch first later position report := by
  obtain ⟨inputs, found, hinputs, hfirst, hlast, hreport⟩ := h
  exact ⟨inputs, found, hinputs, hfirst, hlast.trans hle, hreport⟩

theorem OnTrack.mono {task : Task} (h : OnTrack set ctx batch first last task)
    (hle : last.Precedes later) : OnTrack set ctx batch first later task := by
  obtain ⟨past, found, hfilters, hinputs, hfirst, hlast, hreport⟩ := h
  exact ⟨past, found, hfilters, hinputs, hfirst, hlast.trans hle, hreport⟩

/-- A task that has come to a filter goes on as if it had found the count there from the start:
filters before have other names. -/
theorem OnTrack.advance {task : Task} {filter : Filter} {left : List Filter}
    (h : OnTrack set ctx batch first last task) (hleft : task.left = filter :: left)
    (hsince : first.Precedes last) :
    OnTrack set ctx batch first last (task.advance ctx last filter left) := by
  obtain ⟨past, found, hfilters, hinputs, hfirst, hlast, hreport⟩ := h
  rw [hleft] at hfilters
  have hpast : filter.name ∉ past.map Filter.name := by
    have hnodup := set.nodup
    rw [hfilters, List.map_append, List.map_cons, List.nodup_middle, List.nodup_cons] at hnodup
    exact fun hmem => hnodup.1 (List.mem_append_left _ hmem)
  have hnow : ∀ name, Tally.drawn (found.insert filter.name (last.drawn filter.name)) name =
      if filter.name = name then last.drawn name else found.drawn name := by
    intro name
    split
    · next h => rw [← h, Tally.drawn_insert_self]
    · next h => rw [Tally.drawn_insert_of_ne found h]
  refine ⟨past ++ [filter], found.insert filter.name (last.drawn filter.name), ?_, hinputs,
    fun name => ?_, fun name => ?_, ?_⟩
  · rw [hfilters, List.append_assoc]
    rfl
  · rw [hnow]
    split
    · exact hsince name
    · exact hfirst name
  · rw [hnow]
    split
    · exact Nat.le_refl _
    · exact hlast name
  · rw [Task.advance, List.flatMap_append, List.flatMap_singleton, hreport,
      Filter.flatMap_validate_insert hpast,
      Filter.validate_congr (Tally.drawn_insert_self found _ _).symm]

/-- A task to which no filter is left tells what a validation does. -/
theorem OnTrack.reportAt {task : Task} (h : OnTrack set ctx batch first last task)
    (hleft : task.left = []) : ReportAt set ctx batch first last task.position task.report := by
  obtain ⟨past, found, hfilters, hinputs, hfirst, hlast, hreport⟩ := h
  rw [hleft, List.append_nil] at hfilters
  refine ⟨task.inputs, found, hinputs, hfirst, hlast, ?_⟩
  rw [hreport, FilterSet.validate, hfilters]

theorem length_place (slots : List (Option Report)) (given : Option (Nat × Report)) :
    (place slots given).length = slots.length := by
  cases given with
  | none => rfl
  | some pair => exact List.length_set

/-- A slot has what is put there, or what it had. -/
theorem getElem?_place {slots : List (Option Report)} {given : Option (Nat × Report)}
    {position : Nat} {report : Report}
    (h : (place slots given)[position]? = some (some report)) :
    given = some (position, report) ∨ slots[position]? = some (some report) := by
  cases given with
  | none => exact Or.inr h
  | some pair =>
    obtain ⟨j, r⟩ := pair
    rw [place, List.getElem?_set] at h
    split at h
    · next hj =>
      split at h
      · rw [hj, Option.some.inj (Option.some.inj h)]
        exact Or.inl rfl
      · exact absurd h (by simp)
    · exact Or.inr h

theorem getElem?_place_of_lt {slots : List (Option Report)} {position : Nat}
    (h : position < slots.length) (report : Report) :
    (place slots (some (position, report)))[position]? = some (some report) := by
  rw [place, List.getElem?_set_self h]

/-- A slot that is filled stays filled. -/
theorem exists_getElem?_place {slots : List (Option Report)} {position : Nat} {report : Report}
    (h : slots[position]? = some (some report)) (given : Option (Nat × Report)) :
    ∃ later, (place slots given)[position]? = some (some later) := by
  cases given with
  | none => exact ⟨report, h⟩
  | some pair =>
    obtain ⟨j, r⟩ := pair
    by_cases hj : j = position
    · subst hj
      obtain ⟨hlt, _⟩ := List.getElem?_eq_some_iff.mp h
      exact ⟨r, getElem?_place_of_lt hlt r⟩
    · exact ⟨report, by rw [place, List.getElem?_set_ne hj, h]⟩

theorem Step.size (h : Step ctx panics s t) : t.slots.length = s.slots.length := by
  cases h with
  | join before after given => exact length_place s.slots given
  | _ => rfl

theorem Step.precedes (h : Step ctx panics s t) : s.tally.Precedes t.tally := by
  cases h with
  | advance => exact Tally.precedes_add _ _ _
  | _ => exact .refl s.tally

theorem Step.tasks (h : Step ctx panics s t) (since : first.Precedes s.tally)
    (tasks : ∀ task ∈ s.waiting ++ s.running, OnTrack set ctx batch first s.tally task) :
    ∀ task ∈ t.waiting ++ t.running, OnTrack set ctx batch first t.tally task := by
  have hle := h.precedes
  simp only [List.forall_mem_append] at tasks ⊢
  obtain ⟨waiting, running⟩ := tasks
  cases h with
  | spawn task rest h =>
    rw [h, List.forall_mem_cons] at waiting
    exact ⟨waiting.2, List.forall_mem_append.mpr ⟨running, List.forall_mem_singleton.mpr waiting.1⟩⟩
  | advance before after task filter left h hleft =>
    rw [h, List.forall_mem_append, List.forall_mem_cons] at running
    obtain ⟨hbefore, htask, hafter⟩ := running
    refine ⟨fun task hm => (waiting task hm).mono hle, List.forall_mem_append.mpr
      ⟨fun task hm => (hbefore task hm).mono hle, List.forall_mem_cons.mpr
        ⟨?_, fun task hm => (hafter task hm).mono hle⟩⟩⟩
    exact (htask.advance hleft since).mono hle
  | complete before after task h hleft =>
    rw [h, List.forall_mem_append, List.forall_mem_cons] at running
    exact ⟨waiting, List.forall_mem_append.mpr ⟨running.1, running.2.2⟩⟩
  | panic before after task h hpanics =>
    rw [h, List.forall_mem_append, List.forall_mem_cons] at running
    exact ⟨waiting, List.forall_mem_append.mpr ⟨running.1, running.2.2⟩⟩
  | join before after given hwaiting h => exact ⟨waiting, running⟩

theorem Step.ended (h : Step ctx panics s t)
    (tasks : ∀ task ∈ s.waiting ++ s.running, OnTrack set ctx batch first s.tally task)
    (ended : ∀ i report, some (i, report) ∈ s.ended →
      ReportAt set ctx batch first s.tally i report) :
    ∀ i report, some (i, report) ∈ t.ended → ReportAt set ctx batch first t.tally i report := by
  intro i report hm
  have hle := h.precedes
  cases h with
  | spawn task rest h => exact ended i report hm
  | advance before after task filter left h hleft => exact (ended i report hm).mono hle
  | complete before after task h hleft =>
    rcases List.mem_append.mp hm with hbefore | hnew
    · exact ended i report hbefore
    · obtain ⟨rfl, rfl⟩ := Prod.mk.inj (Option.some.inj (List.mem_singleton.mp hnew))
      have hrunning : task ∈ s.running := by rw [h]; exact List.mem_append_cons_self
      exact (tasks task (List.mem_append_right _ hrunning)).reportAt hleft
  | panic before after task h hpanics =>
    rcases List.mem_append.mp hm with hbefore | hnew
    · exact ended i report hbefore
    · exact absurd (List.mem_singleton.mp hnew) (by simp)
  | join before after given hwaiting h =>
    refine ended i report ?_
    rw [h]
    exact List.mem_append.mpr ((List.mem_append.mp hm).imp_right (List.mem_cons_of_mem _))

theorem Step.slots (h : Step ctx panics s t)
    (ended : ∀ i report, some (i, report) ∈ s.ended →
      ReportAt set ctx batch first s.tally i report)
    (slots : ∀ i report, s.slots[i]? = some (some report) →
      ReportAt set ctx batch first s.tally i report) :
    ∀ i report, t.slots[i]? = some (some report) →
      ReportAt set ctx batch first t.tally i report := by
  intro i report hslot
  have hle := h.precedes
  cases h with
  | join before after given hwaiting h =>
    rcases getElem?_place hslot with rfl | hs
    · exact ended i report (by rw [h]; exact List.mem_append_cons_self)
    · exact slots i report hs
  | _ => exact (slots i report hslot).mono hle

theorem Step.has (h : Step ctx panics s t) {i : Nat} (hi : i < s.slots.length)
    (hpanics : ¬panics i) (hs : s.Has i) : t.Has i := by
  cases h with
  | spawn task rest h =>
    simp only [Has, h, List.map_append, List.map_cons, List.mem_append, List.mem_cons] at hs ⊢
    tauto
  | advance before after task filter left h hleft =>
    simp only [Has, h, List.map_append, List.map_cons, Task.advance] at hs ⊢
    exact hs
  | complete before after task h hleft =>
    simp only [Has, h, List.map_append, List.map_cons, List.mem_append, List.mem_cons,
      List.filterMap_append, List.filterMap_cons, Option.map_some] at hs ⊢
    tauto
  | panic before after task h hp =>
    have hne : i ≠ task.position := fun he => hpanics (he ▸ hp)
    simp only [Has, h, List.map_append, List.map_cons, List.mem_append, List.mem_cons,
      List.filterMap_append] at hs ⊢
    tauto
  | join before after given hwaiting h =>
    rcases hs with hwork | hended | ⟨report, hslot⟩
    · exact Or.inl hwork
    · have hkept (hm : i ∈ before.filterMap (Option.map Prod.fst) ∨
          i ∈ after.filterMap (Option.map Prod.fst)) :
          Has { s with ended := before ++ after, slots := place s.slots given } i :=
        Or.inr (Or.inl (by rwa [List.filterMap_append, List.mem_append]))
      rw [h, List.filterMap_append, List.mem_append] at hended
      cases given with
      | none => exact hkept hended
      | some pair =>
        obtain ⟨j, report⟩ := pair
        rcases hended with hbefore | hrest
        · exact hkept (Or.inl hbefore)
        · rcases List.mem_cons.mp hrest with rfl | hafter
          · exact Or.inr (Or.inr ⟨report, getElem?_place_of_lt hi report⟩)
          · exact hkept (Or.inr hafter)
    · exact Or.inr (Or.inr (exists_getElem?_place hslot given))

theorem Step.accounted (h : Step ctx panics s t) (hs : Accounted set ctx panics batch first s) :
    Accounted set ctx panics batch first t where
  size := h.size.trans hs.size
  since := hs.since.trans h.precedes
  tasks := h.tasks hs.since hs.tasks
  ended := h.ended hs.tasks hs.ended
  slots := h.slots hs.ended hs.slots
  has i hi hp := h.has (hs.size ▸ hi) hp (hs.has i hi hp)

theorem accounted_start (set : FilterSet) (ctx : Context) (panics : Nat → Prop) (tally : Tally)
    (batch : List (Entries Value)) :
    Accounted set ctx panics batch tally (start set tally batch) where
  size := List.length_replicate
  since := .refl tally
  tasks task hm := by
    rw [start, List.append_nil, List.mem_mapIdx] at hm
    obtain ⟨i, hi, rfl⟩ := hm
    exact ⟨[], tally, rfl, List.getElem?_eq_getElem hi, .refl tally, .refl tally, rfl⟩
  ended i report hm := absurd hm List.not_mem_nil
  slots i report hslot := by
    have hm := List.eq_of_mem_replicate (List.mem_of_getElem? hslot)
    exact absurd hm (by simp)
  has i hi _ := by
    refine Or.inl ?_
    rw [start, List.append_nil, List.mem_map]
    exact ⟨_, List.mem_mapIdx.mpr ⟨i, hi, rfl⟩, rfl⟩

/-- A run keeps what every step keeps. -/
theorem Reaches.accounted (h : Reaches ctx panics s t)
    (hs : Accounted set ctx panics batch first s) : Accounted set ctx panics batch first t := by
  induction h with
  | refl => exact hs
  | tail _ step ih => exact step.accounted ih

theorem Accounted.length_reports (hs : Accounted set ctx panics batch first s) :
    s.reports.length = batch.length := by
  rw [reports, List.length_map, hs.size]

/-- **What a batch gives**: at each position the report of a validation of the inputs there, or that
the task panicked. -/
theorem Accounted.getElem?_reports (hs : Accounted set ctx panics batch first s)
    (finished : s.Finished) {i : Nat} {inputs : Entries Value} (hi : batch[i]? = some inputs) :
    (∃ found, first.Precedes found ∧ found.Precedes s.tally ∧
      s.reports[i]? = some (set.validate ctx found inputs)) ∨
    panics i ∧ s.reports[i]? = some taskFailed := by
  obtain ⟨hwaiting, hrunning, hended⟩ := finished
  obtain ⟨hlt, _⟩ := List.getElem?_eq_some_iff.mp hi
  rw [reports, List.getElem?_map]
  cases hslot : s.slots[i]? with
  | none =>
    rw [List.getElem?_eq_none_iff, hs.size] at hslot
    exact absurd hlt (Nat.not_lt.mpr hslot)
  | some slot =>
    cases slot with
    | some report =>
      obtain ⟨inputs', found, hinputs, hfirst, hlast, rfl⟩ := hs.slots i report hslot
      rw [hi] at hinputs
      exact Or.inl ⟨found, hfirst, hlast, by rw [Option.some.inj hinputs]; rfl⟩
    | none =>
      refine Or.inr ⟨?_, rfl⟩
      by_contra hpanics
      rcases hs.has i hlt hpanics with hwork | hgiven | ⟨report, hfilled⟩
      · rw [hwaiting, hrunning] at hwork
        exact List.not_mem_nil hwork
      · rw [hended] at hgiven
        exact List.not_mem_nil hgiven
      · rw [hslot] at hfilled
        exact absurd hfilled (by simp)

/-- Where no default is lazy and no task panics, the reports are those of the inputs, in order. -/
theorem Accounted.reports_of_fixed (hs : Accounted set ctx panics batch first s)
    (finished : s.Finished) (fixed : ∀ filter ∈ set.filters, filter.FixedDefaults)
    (nopanic : ∀ i < batch.length, ¬panics i) (later : Tally) :
    s.reports = batch.map (set.validate ctx later) := by
  refine List.ext_getElem? fun i => ?_
  rw [List.getElem?_map]
  cases hi : batch[i]? with
  | none =>
    rw [Option.map_none, List.getElem?_eq_none_iff, hs.length_reports]
    exact List.getElem?_eq_none_iff.mp hi
  | some inputs =>
    rcases hs.getElem?_reports finished hi with ⟨found, _, _, hfound⟩ | ⟨hpanics, _⟩
    · rw [hfound, FilterSet.validate_of_fixed fixed found later, Option.map_some]
    · exact absurd hpanics (nopanic i (List.getElem?_eq_some_iff.mp hi).1)

end Batch

end Intake
