import Intake.DefinitionError
import Intake.Text.Split

/-!
# Slugs

The slug of a kind is derived from the name of its type: `DateTimeFilter` gives `date_time`.  Words
are set apart in two passes: first the last capital letter of a row of them, where a small letter
comes after it, and then every capital letter after a small letter or a digit.
-/

namespace Intake.Slug

def isTypeWord : List Char → Bool
  | [] => false
  | c :: rest => c.isUpper && rest.all Char.isAlphanum

/-- Puts an underscore between the two parts of every match, from left to right; what a match takes
up is not looked at again.  The number counts the characters of the last match that are still to
come. -/
def spaceFrom (match? : List Char → Option (List Char × List Char)) : Nat → List Char → List Char
  | _, [] => []
  | taken + 1, _ :: rest => spaceFrom match? taken rest
  | 0, c :: rest =>
    match match? (c :: rest) with
    | some (before, after) =>
      before ++ '_' :: after ++ spaceFrom match? (before.length + after.length - 1) rest
    | none => c :: spaceFrom match? 0 rest

/-- A row of two or more capital letters and a small letter after it; the last capital letter goes
with the small one. -/
def acronym? (cs : List Char) : Option (List Char × List Char) :=
  match (cs.takeWhile Char.isUpper).reverse, cs.dropWhile Char.isUpper with
  | last :: first :: row, next :: _ =>
    if next.isLower then some ((first :: row).reverse, [last, next]) else none
  | _, _ => none

/-- A small letter or a digit, and a capital letter. -/
def wordEnd? : List Char → Option (List Char × List Char)
  | c :: next :: _ =>
    if (c.isLower || c.isDigit) && next.isUpper then some ([c], [next]) else none
  | _ => none

/-- Lower-case words with underscores between them. -/
def underscored (base : List Char) : List Char :=
  (spaceFrom wordEnd? 0 (spaceFrom acronym? 0 base)).map Char.toLower

def suffix : List Char := "Filter".toList

/-- The base of a type name: its last part without the suffix. -/
def base? (typeName : List Char) : Option (List Char) :=
  let parts := Text.splitScope typeName
  let last := parts.getLastD []
  let base := last.take (last.length - suffix.length)
  if parts.dropLast.all isTypeWord && isTypeWord base && base ++ suffix == last then some base
  else none

def ofTypeName (typeName : String) : Except DefinitionError String :=
  match base? typeName.toList with
  | some base => .ok (String.ofList (underscored base))
  | none => .error (.malformedTypeName typeName)

end Intake.Slug
