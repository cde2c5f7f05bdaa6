import Intake.Toml

/-!
# Tables under construction

The tables of a document grow line by line.  A header opens a table once and for all; a key with
points in it makes tables on its way; a table that a longer header has made on its way can still be
opened.  Nothing can be set twice.
-/

namespace Intake.Toml

inductive Origin where
  /-- On the way of a longer header. -/
  | implied
  /-- By a header of its own. -/
  | header
  /-- On the way of a key with points in it. -/
  | dotted
  deriving DecidableEq

/-- What a key stands for while the document is read.  The tables of an array are kept last first.
-/
inductive Node where
  | value (v : Toml)
  | table (origin : Origin) (entries : List (String × Node))
  | tables (items : List (List (String × Node)))

abbrev Nodes := List (String × Node)

namespace Nodes

def put (nodes : Nodes) (key : String) (node : Node) : Nodes :=
  match nodes with
  | [] => [(key, node)]
  | (k, n) :: rest => if k = key then (k, node) :: rest else (k, n) :: put rest key node

/-- Sets a value at the end of a path.  The path leads through tables that no header has opened and
through the last table of an array; `mayEnd` tells whether it may end in this table. -/
def setAt? (value : Toml) : (mayEnd : Bool) → List String → Nodes → Option Nodes
  | _, [], _ => none
  | mayEnd, [key], nodes =>
    if mayEnd && (nodes.lookup key).isNone then some (nodes.put key (.value value)) else none
  | _, key :: path, nodes =>
    match nodes.lookup key with
    | none => (setAt? value true path []).map fun inner => nodes.put key (.table .dotted inner)
    | some (.table origin inner) =>
      if origin = .header then none
      else
        (setAt? value (origin = .dotted) path inner).map fun inner =>
          nodes.put key (.table origin inner)
    | some (.tables (last :: earlier)) =>
      (setAt? value false path last).map fun last => nodes.put key (.tables (last :: earlier))
    | some _ => none

/-- Sets a value under a key with points in it.  The value comes to stand in this table or in one
that such a key has made. -/
def set? (value : Toml) (key : List String) (nodes : Nodes) : Option Nodes :=
  setAt? value true key nodes

/-- Changes the table at a path; of an array of tables that is the last one. -/
def update? (change : Nodes → Option Nodes) : List String → Nodes → Option Nodes
  | [], nodes => change nodes
  | key :: path, nodes =>
    match nodes.lookup key with
    | none => (update? change path []).map fun inner => nodes.put key (.table .implied inner)
    | some (.table origin inner) =>
      (update? change path inner).map fun inner => nodes.put key (.table origin inner)
    | some (.tables (last :: earlier)) =>
      (update? change path last).map fun last => nodes.put key (.tables (last :: earlier))
    | some _ => none

def openTable? (key : String) (nodes : Nodes) : Option Nodes :=
  match nodes.lookup key with
  | none => some (nodes.put key (.table .header []))
  | some (.table .implied inner) => some (nodes.put key (.table .header inner))
  | some _ => none

/-- Opens one more table of an array. -/
def openItem? (key : String) (nodes : Nodes) : Option Nodes :=
  match nodes.lookup key with
  | none => some (nodes.put key (.tables [[]]))
  | some (.tables items) => some (nodes.put key (.tables ([] :: items)))
  | some _ => none

end Nodes

mutual

def Node.toToml : Node → Toml
  | .value v => v
  | .table _ entries => .table (entriesToToml entries)
  | .tables items => .array (itemsToToml items).reverse

def entriesToToml : List (String × Node) → List (String × Toml)
  | [] => []
  | (key, node) :: rest => (key, node.toToml) :: entriesToToml rest

def itemsToToml : List (List (String × Node)) → List Toml
  | [] => []
  | entries :: rest => .table (entriesToToml entries) :: itemsToToml rest

end

end Intake.Toml
