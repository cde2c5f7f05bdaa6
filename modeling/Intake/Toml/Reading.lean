import Intake.Toml.Scalar
import Intake.Toml.Tables

/-!
# Reading TOML

A document is read line by line into its root table.
-/

namespace Intake.Toml

mutual

/-- Reads a value with a number of brackets and braces in one another at most. -/
def takeNested? : (fuel most : Nat) → List Char → Option (Toml × List Char)
  | 0, _, _ => none
  | fuel + 1, most, cs =>
    match cs, most with
    | '[' :: rest, most + 1 =>
      (takeItems? fuel most rest).map fun (items, rest) => (array items, rest)
    | '\x7b' :: rest, most + 1 =>
      (takeMembers? fuel most [] rest).map fun (nodes, rest) =>
        (table (entriesToToml nodes), rest)
    | c :: rest, _ =>
      if c = '"' || c = '\'' then
        (takeString? (c :: rest)).map fun (text, rest) => (string (String.ofList text), rest)
      else
        takeUnquoted? (c :: rest)
    | [], _ => none

/-- Reads the items of an array, after its bracket or a comma. -/
def takeItems? : (fuel most : Nat) → List Char → Option (List Toml × List Char)
  | 0, _, _ => none
  | fuel + 1, most, cs => do
    match ← skipLines? cs.length cs with
    | ']' :: rest => return ([], rest)
    | cs =>
      let (item, rest) ← takeNested? fuel most cs
      match ← skipLines? rest.length rest with
      | ',' :: rest => (takeItems? fuel most rest).map fun (items, rest) => (item :: items, rest)
      | ']' :: rest => return ([item], rest)
      | _ => none

/-- Reads the members of an inline table, after its brace or a comma. -/
def takeMembers? : (fuel most : Nat) → Nodes → List Char → Option (Nodes × List Char)
  | 0, _, _, _ => none
  | fuel + 1, most, nodes, cs => do
    match ← skipLines? cs.length cs with
    | '\x7d' :: rest => return (nodes, rest)
    | cs =>
      let (key, rest) ← takeKey? cs
      let rest ← takeChar? '=' (← skipLines? rest.length rest)
      let (value, rest) ← takeNested? fuel most (← skipLines? rest.length rest)
      let nodes ← nodes.set? value key
      match ← skipLines? rest.length rest with
      | ',' :: rest => takeMembers? fuel most nodes rest
      | '\x7d' :: rest => return (nodes, rest)
      | _ => none

end

def takeValue? (cs : List Char) : Option (Toml × List Char) :=
  takeNested? cs.length nestingLimit cs

/-- A table at a path, and the root table that it is part of. -/
structure Place where
  path : List String := []
  root : Nodes := []

/-- Opens the table of a header: `cs` is what follows the bracket or brackets. -/
def Place.takeHeader? (place : Place) (item : Bool) (cs : List Char) :
    Option (Place × List Char) := do
  let (path, rest) ← takeKey? cs
  let rest ← takeChar? ']' rest
  let rest ← if item then takeChar? ']' rest else some rest
  let key ← path.getLast?
  let opened := if item then Nodes.openItem? key else Nodes.openTable? key
  let root ← Nodes.update? opened path.dropLast place.root
  return (⟨path, root⟩, rest)

/-- Sets the value of a key in the open table. -/
def Place.takePair? (place : Place) (cs : List Char) : Option (Place × List Char) := do
  let (key, rest) ← takeKey? cs
  let rest ← takeChar? '=' rest
  let (value, rest) ← takeValue? (skipSpaces rest)
  let root ← Nodes.update? (Nodes.set? value key) place.path place.root
  return (⟨place.path, root⟩, rest)

def Place.takeLines? : (fuel : Nat) → Place → List Char → Option Place
  | 0, _, _ => none
  | fuel + 1, place, cs => do
    match ← skipLines? cs.length cs with
    | [] => return place
    | '[' :: '[' :: rest =>
      let (place, rest) ← place.takeHeader? true rest
      Place.takeLines? fuel place (← endLine? rest)
    | '[' :: rest =>
      let (place, rest) ← place.takeHeader? false rest
      Place.takeLines? fuel place (← endLine? rest)
    | cs =>
      let (place, rest) ← place.takePair? cs
      Place.takeLines? fuel place (← endLine? rest)

/-- The root table of a document, whose first character may be a byte order mark. -/
def read? (s : String) : Option (List (String × Toml)) :=
  let cs := match s.toList with
    | '\ufeff' :: rest => rest
    | cs => cs
  (Place.takeLines? (cs.length + 1) {} cs).map fun place => entriesToToml place.root

end Intake.Toml
