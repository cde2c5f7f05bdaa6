import Intake.Filter.Cast
import Intake.FilterSet

/-!
# Validation

Inputs are held against a filter set, filter by filter.  Validation tells what is wrong with them;
processing also gives the values, cleaned, with nil where a filter rejects.  What is wrong with
inputs goes into the report.  A default that its own filter rejects is an error of the program and
stops the processing.

A tally says how many times the lazy default of every filter was resolved before.
-/

namespace Intake

/-- How many times the defaults of filters were resolved, by the names of the filters. -/
abbrev Tally := Entries Nat

namespace Tally

def drawn (tally : Tally) (name : String) : Nat :=
  (tally.get? name).getD 0

def add (tally : Tally) (name : String) (draws : Nat) : Tally :=
  tally.insert name (tally.drawn name + draws)

end Tally

/-- What comes of processing inputs. -/
structure Outcome where
  values : Entries Value := []
  report : Report := []

namespace Outcome

def isValid (outcome : Outcome) : Bool :=
  outcome.report.isEmpty

def get? (outcome : Outcome) (name : String) : Option Value :=
  outcome.values.get? name

def result (outcome : Outcome) : Except Report (Entries Value) :=
  if outcome.isValid then .ok outcome.values else .error outcome.report

end Outcome

namespace Filter

def validate (filter : Filter) (ctx : Context) (tally : Tally) (inputs : Entries Value) : Report :=
  (filter.judge ctx (tally.drawn filter.name) (inputs.value filter.name)).issues

def process (filter : Filter) (ctx : Context) (tally : Tally) (inputs : Entries Value) :
    Except DefinitionError (Value × Report) :=
  let raw := inputs.value filter.name
  let drawn := tally.drawn filter.name
  let verdict := filter.judge ctx drawn raw
  if !verdict.issues.isEmpty then .ok (.nil, verdict.issues)
  else if filter.needsDefault verdict.value then
    (filter.default ctx (drawn + filter.castDraws raw)).map fun value => (value, [])
  else .ok (verdict.value, [])

def processDraws (filter : Filter) (ctx : Context) (tally : Tally) (inputs : Entries Value) : Nat :=
  let raw := inputs.value filter.name
  let drawn := tally.drawn filter.name
  let verdict := filter.judge ctx drawn raw
  let draws := filter.castDraws raw
  if verdict.issues.isEmpty && filter.needsDefault verdict.value then
    draws + filter.defaultDraws (drawn + draws)
  else
    draws

end Filter

namespace FilterSet

/-- What is wrong with inputs. -/
def validate (set : FilterSet) (ctx : Context) (tally : Tally) (inputs : Entries Value) : Report :=
  set.filters.flatMap fun filter => filter.validate ctx tally inputs

def tallyValidate (set : FilterSet) (tally : Tally) (inputs : Entries Value) : Tally :=
  set.filters.foldl
    (fun acc filter => acc.add filter.name (filter.castDraws (inputs.value filter.name))) tally

/-- Processes the inputs of filters one after the other, on top of an outcome. -/
def processAll (ctx : Context) (tally : Tally) (inputs : Entries Value) :
    List Filter → Outcome → Except DefinitionError Outcome
  | [], outcome => .ok outcome
  | filter :: rest, outcome =>
    match filter.process ctx tally inputs with
    | .error error => .error error
    | .ok (value, issues) =>
      processAll ctx tally inputs rest
        ⟨outcome.values.insert filter.name value, outcome.report ++ issues⟩

def process (set : FilterSet) (ctx : Context) (tally : Tally) (inputs : Entries Value) :
    Except DefinitionError Outcome :=
  processAll ctx tally inputs set.filters {}

/-- The tally after filters were processed, up to the first whose default fails. -/
def tallyProcessAll (ctx : Context) (inputs : Entries Value) : List Filter → Tally → Tally
  | [], tally => tally
  | filter :: rest, tally =>
    let after := tally.add filter.name (filter.processDraws ctx tally inputs)
    match filter.process ctx tally inputs with
    | .error _ => after
    | .ok _ => tallyProcessAll ctx inputs rest after

def tallyProcess (set : FilterSet) (ctx : Context) (tally : Tally) (inputs : Entries Value) :
    Tally :=
  tallyProcessAll ctx inputs set.filters tally

end FilterSet

end Intake
