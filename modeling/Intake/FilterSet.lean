import Intake.Filter.Build

/-!
# Filter sets

The filters that inputs are held against, in the order of their declaration, all with names of their
own.
-/

namespace Intake

/-- Filters with different names. -/
structure FilterSet where
  filters : List Filter := []
  nodup : (filters.map Filter.name).Nodup := by exact List.nodup_nil

def firstRepeated? (seen : List String) : List String → Option String
  | [] => none
  | s :: rest => if seen.contains s then some s else firstRepeated? (s :: seen) rest

namespace FilterSet

def ofList (filters : List Filter) : Except DefinitionError FilterSet :=
  if h : (filters.map Filter.name).Nodup then .ok ⟨filters, h⟩
  else .error (.repeatedFilter ((firstRepeated? [] (filters.map Filter.name)).getD ""))

/-- Builds declarations one after the other; the first that fails is told. -/
def buildAll (registry : Registry) : List Declaration → Except DefinitionError (List Filter)
  | [] => .ok []
  | declaration :: rest => do
    let filter ← declaration.build registry
    return filter :: (← buildAll registry rest)

def build (registry : Registry) (declarations : List Declaration) :
    Except DefinitionError FilterSet := do
  ofList (← buildAll registry declarations)

def get? (set : FilterSet) (name : String) : Option Filter :=
  set.filters.find? (·.name == name)

def names (set : FilterSet) : List String :=
  set.filters.map Filter.name

end FilterSet

end Intake
