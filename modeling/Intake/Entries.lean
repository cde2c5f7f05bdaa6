/-!
# Entries

A keyed collection is the list of its pairs, in ascending order of the keys.  Texts are ordered by
their code points, which is the order of their UTF-8 bytes.
-/

namespace Intake

/-- Pairs of a key and a value, ascending by key. -/
abbrev Entries (α : Type) := List (String × α)

namespace Entries

variable {α : Type}

def get? : Entries α → String → Option α
  | [], _ => none
  | (k, v) :: rest, key => if k = key then some v else get? rest key

def contains (entries : Entries α) (key : String) : Bool :=
  (entries.get? key).isSome

/-- Puts a value under a key, in place of the one that is there. -/
def insert : Entries α → String → α → Entries α
  | [], key, value => [(key, value)]
  | (k, v) :: rest, key, value =>
    if k = key then (key, value) :: rest
    else if key < k then (key, value) :: (k, v) :: rest
    else (k, v) :: insert rest key value

def keys (entries : Entries α) : List String :=
  entries.map Prod.fst

/-- Inserts pairs one after the other, so that the last of equal keys stays. -/
def insertAll (entries : Entries α) (pairs : List (String × α)) : Entries α :=
  pairs.foldl (fun acc (k, v) => acc.insert k v) entries

def ofPairs (pairs : List (String × α)) : Entries α :=
  insertAll [] pairs

end Entries

end Intake
