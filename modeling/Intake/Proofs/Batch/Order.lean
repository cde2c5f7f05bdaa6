import Intake.Proofs.Batch.Tasks

/-!
# The order of tasks

`validateBatch` takes the inputs of a batch in order.  It is what comes of the run in which a task
starts after the one before it (`exists_reaches_validateBatch`).  Every other run gives validations
of the same inputs in the same places, which differ at most in what lazy defaults give:
`validateBatch_any_order`.
-/

namespace Intake

namespace Batch

variable {ctx : Context} {panics : Nat → Prop}

/-! ### One task after the other -/

/-- A task alone does all that is left to it.  The counts of later filters are as they were when it
started. -/
theorem reaches_advance (waiting : List Task) (ended : List (Option (Nat × Report)))
    (slots : List (Option Report)) (position : Nat) (inputs : Entries Value) :
    ∀ left : List Filter, (left.map Filter.name).Nodup → ∀ (report : Report) (tally : Tally),
      Reaches ctx panics ⟨waiting, [⟨position, inputs, left, report⟩], ended, slots, tally⟩
        ⟨waiting,
          [⟨position, inputs, [],
            report ++ left.flatMap fun filter => filter.validate ctx tally inputs⟩],
          ended, slots,
          left.foldl
            (fun acc filter => acc.add filter.name (filter.castDraws (inputs.value filter.name)))
            tally⟩ := by
  intro left
  induction left with
  | nil =>
    intro _ report tally
    rw [List.flatMap_nil, List.append_nil]
    exact .refl
  | cons filter rest ih =>
    intro hnames report tally
    rw [List.map_cons, List.nodup_cons] at hnames
    refine .head (.advance [] [] _ filter rest rfl rfl) ?_
    have hrest := ih hnames.2 (report ++ filter.validate ctx tally inputs)
      (tally.add filter.name (filter.castDraws (inputs.value filter.name)))
    rw [Tally.add, Filter.flatMap_validate_insert hnames.1, List.append_assoc] at hrest
    exact hrest

/-- What is waiting, done one task after the other. -/
theorem reaches_completions (set : FilterSet) (ctx : Context) (panics : Nat → Prop)
    (slots : List (Option Report)) : ∀ (batch : List (Entries Value)) (position : Nat)
    (ended : List (Option (Nat × Report))) (tally : Tally),
    Reaches ctx panics
      ⟨batch.mapIdx fun i inputs => ⟨position + i, inputs, set.filters, []⟩, [], ended, slots,
        tally⟩
      ⟨[], [], ended ++ (set.completions ctx position tally batch).map some, slots,
        set.tallyBatch tally batch⟩ := by
  intro batch
  induction batch with
  | nil =>
    intro position ended tally
    rw [FilterSet.completions, List.map_nil, List.append_nil]
    exact .refl
  | cons inputs rest ih =>
    intro position ended tally
    rw [List.mapIdx_cons, Nat.add_zero]
    refine .head (.spawn _ _ rfl) ?_
    refine .trans (reaches_advance _ ended slots position inputs _ set.nodup [] tally) ?_
    refine .head (.complete [] [] _ rfl rfl) ?_
    have hrest := ih (position + 1) (ended ++ [some (position, set.validate ctx tally inputs)])
      (set.tallyValidate tally inputs)
    rw [List.append_assoc] at hrest
    simp only [Nat.add_assoc, Nat.add_comm 1] at hrest
    exact hrest

theorem place_append (done rest : List (Option Report)) (report : Report) :
    place (done ++ none :: rest) (some (done.length, report)) = done ++ some report :: rest := by
  rw [place, List.set_append_right _ _ (Nat.le_refl _), Nat.sub_self, List.set_cons_zero]

/-- Completions joined in order. -/
theorem reaches_join (set : FilterSet) (ctx : Context) (panics : Nat → Prop) (later : Tally) :
    ∀ (batch : List (Entries Value)) (done : List (Option Report)) (tally : Tally),
    Reaches ctx panics
      ⟨[], [], (set.completions ctx done.length tally batch).map some,
        done ++ List.replicate batch.length none, later⟩
      ⟨[], [], [],
        done ++ (set.completions ctx done.length tally batch).map (fun given => some given.2),
        later⟩ := by
  intro batch
  induction batch with
  | nil =>
    intro done tally
    exact .refl
  | cons inputs rest ih =>
    intro done tally
    refine .head (.join [] _ _ rfl rfl) ?_
    have hrest := ih (done ++ [some (set.validate ctx tally inputs)])
      (set.tallyValidate tally inputs)
    rw [List.length_append, List.append_assoc, List.append_assoc] at hrest
    dsimp only
    rw [List.length_cons, List.replicate_succ, place_append]
    exact hrest

end Batch

namespace FilterSet

open Batch

theorem map_lookup_completions (set : FilterSet) (ctx : Context) (batch : List (Entries Value)) :
    ∀ (position : Nat) (tally : Tally),
      ((List.range' position batch.length).map fun later =>
        ((set.completions ctx position tally batch).lookup later).getD taskFailed) =
        (set.completions ctx position tally batch).map Prod.snd := by
  induction batch with
  | nil => intro position tally; rfl
  | cons inputs rest ih =>
    intro position tally
    rw [List.length_cons, List.range'_succ, completions, List.map_cons, List.map_cons, ← ih,
      List.lookup_cons_self, Option.getD_some]
    refine congrArg _ (List.map_congr_left fun later hm => ?_)
    have hne : later ≠ position := by
      have hle := (List.mem_range'_1.mp hm).1
      omega
    rw [List.lookup_cons, beq_false_of_ne hne]

/-- The reports of a batch are those of its completions. -/
theorem validateBatch_eq (set : FilterSet) (ctx : Context) (tally : Tally)
    (batch : List (Entries Value)) :
    set.validateBatch ctx tally batch = (set.completions ctx 0 tally batch).map Prod.snd := by
  rw [validateBatch, assemble, List.range_eq_range', map_lookup_completions]

theorem validateBatch_of_fixed {set : FilterSet}
    (fixed : ∀ filter ∈ set.filters, filter.FixedDefaults) (ctx : Context) (tally later : Tally)
    (batch : List (Entries Value)) :
    set.validateBatch ctx tally batch = batch.map (set.validate ctx later) := by
  rw [validateBatch_eq]
  generalize 0 = position
  induction batch generalizing position tally with
  | nil => rfl
  | cons inputs rest ih =>
    rw [completions, List.map_cons, List.map_cons, ih, validate_of_fixed fixed tally later]

/-- `validateBatch` is what comes of the run in which a task starts after the one before it. -/
theorem exists_reaches_validateBatch (set : FilterSet) (ctx : Context) (panics : Nat → Prop)
    (tally : Tally) (batch : List (Entries Value)) :
    ∃ s, Reaches ctx panics (start set tally batch) s ∧ s.Finished ∧
      s.reports = set.validateBatch ctx tally batch ∧ s.tally = set.tallyBatch tally batch := by
  have hwork := reaches_completions set ctx panics (List.replicate batch.length none) batch 0 [] tally
  simp only [Nat.zero_add, List.nil_append] at hwork
  have hjoin := reaches_join set ctx panics (set.tallyBatch tally batch) batch [] tally
  refine ⟨_, hwork.trans hjoin, ⟨rfl, rfl, rfl⟩, ?_, rfl⟩
  rw [validateBatch_eq, reports, List.nil_append, List.map_map]
  rfl

/-- **The order of the tasks does not matter.**  Every run of a batch ends, whatever happens next,
and one of them gives the reports of `validateBatch`.  They all give as many reports as there are
inputs, each where its inputs are, as a validation of these tells between the start and the end.
Where no default is lazy it is known from the inputs alone. -/
theorem validateBatch_any_order (set : FilterSet) (ctx : Context) (panics : Nat → Prop)
    (tally : Tally) (batch : List (Entries Value)) :
    (WellFounded fun t s => Step ctx panics s t) ∧
    (∃ s, Reaches ctx panics (start set tally batch) s ∧ s.Finished ∧
      s.reports = set.validateBatch ctx tally batch) ∧
    ∀ s, Reaches ctx panics (start set tally batch) s →
      (¬s.Finished → ∃ t, Step ctx panics s t) ∧
      (s.Finished →
        s.reports.length = batch.length ∧
        (∀ i inputs, batch[i]? = some inputs → ¬panics i →
          ∃ found, tally.Precedes found ∧ found.Precedes s.tally ∧
            s.reports[i]? = some (set.validate ctx found inputs)) ∧
        ((∀ filter ∈ set.filters, filter.FixedDefaults) →
          (∀ i < batch.length, ¬panics i) →
          s.reports = set.validateBatch ctx tally batch ∧
          ∀ later, s.reports = batch.map (set.validate ctx later))) := by
  obtain ⟨last, hlast, hfinished, hreports, _⟩ :=
    exists_reaches_validateBatch set ctx panics tally batch
  refine ⟨wellFounded_step ctx panics, ⟨last, hlast, hfinished, hreports⟩, fun s hs => ?_⟩
  have accounted := hs.accounted (accounted_start set ctx panics tally batch)
  refine ⟨exists_step ctx panics, fun finished => ⟨accounted.length_reports, ?_, ?_⟩⟩
  · intro i inputs hi hpanics
    exact (accounted.getElem?_reports finished hi).resolve_right fun h => hpanics h.1
  · intro fixed nopanic
    have heach : ∀ later, s.reports = batch.map (set.validate ctx later) :=
      fun later => accounted.reports_of_fixed finished fixed nopanic later
    exact ⟨by rw [heach tally, validateBatch_of_fixed fixed ctx tally tally], heach⟩

def titleFilters : FilterSet where
  filters := [.scalar ⟨"title", "string", {}⟩ (.string true)]
  nodup := by decide

/-- Inputs with a title and inputs without one. -/
def titleBatch : List (Entries Value) :=
  [[("title", .string "plan")], []]

/-- Both tasks are done, the second one first. -/
def overtaken : Batch where
  waiting := []
  ended := [some (1, [⟨⟨"title", []⟩, .missing, [], some "title"⟩]), some (0, [])]
  slots := [none, none]
  tally := [("title", 0)]

/-- Their reports are joined in this order. -/
def overtakenJoined : Batch :=
  { overtaken with
    ended := []
    slots := [some [], some [⟨⟨"title", []⟩, .missing, [], some "title"⟩]] }

theorem validateBatch_any_order_overtaken :
    Reaches {} (fun _ => False) (start titleFilters [] titleBatch) overtaken ∧
    Reaches {} (fun _ => False) overtaken overtakenJoined ∧
    titleFilters.validateBatch {} [] titleBatch =
      [[], [⟨⟨"title", []⟩, .missing, [], some "title"⟩]] := by
  have hwork : Reaches {} (fun _ => False) (start titleFilters [] titleBatch) overtaken :=
    .head (.spawn _ _ rfl) <| .head (.spawn _ _ rfl) <|
    .head (.advance [_] [] _ _ _ rfl rfl) <| .head (.complete [_] [] _ rfl rfl) <|
    .head (.advance [] [] _ _ _ rfl rfl) <| .head (.complete [] [] _ rfl rfl) .refl
  have hjoin : Reaches {} (fun _ => False) overtaken overtakenJoined :=
    .head (.join [] _ _ rfl rfl) <| .head (.join [] _ _ rfl rfl) .refl
  have hfixed : ∀ filter ∈ titleFilters.filters, filter.FixedDefaults := by
    unfold Filter.FixedDefaults
    decide
  have hruns := (validateBatch_any_order titleFilters {} (fun _ => False) [] titleBatch).2.2
  have hreports := ((hruns _ (hwork.trans hjoin)).2 ⟨rfl, rfl, rfl⟩).2.2 hfixed fun _ _ => id
  exact ⟨hwork, hjoin, hreports.1.symm⟩

end FilterSet

end Intake
