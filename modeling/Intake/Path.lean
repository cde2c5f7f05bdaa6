/-!
# Paths

The address of an error: a root and the steps below it, each an index or a key, as in
`orders[0].lines[3]`.
-/

namespace Intake

/-- A step below the root. -/
inductive Segment where
  | index (i : Nat)
  | key (k : String)
  deriving DecidableEq

/-- The address of an error. -/
structure Path where
  root : String
  segments : List Segment := []
  deriving DecidableEq

namespace Path

/-- Puts the path of an element under the array `parent`; its old root is the array's name. -/
def underIndex (path : Path) (parent : String) (i : Nat) : Path :=
  ⟨parent, .index i :: path.segments⟩

/-- Puts the path of a field under the hash `parent`; its old root becomes a key. -/
def underKey (path : Path) (parent : String) : Path :=
  ⟨parent, .key path.root :: path.segments⟩

def isNested (path : Path) : Bool :=
  !path.segments.isEmpty

end Path

def Segment.text : Segment → String
  | index i => "[" ++ toString i ++ "]"
  | key k => "." ++ k

def Path.text (path : Path) : String :=
  path.segments.foldl (fun acc segment => acc ++ segment.text) path.root

end Intake
