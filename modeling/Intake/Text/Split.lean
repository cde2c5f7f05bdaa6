/-!
# Splitting texts

A text is split at every occurrence of a separator; there is always one part more than there are
separators.
-/

namespace Intake.Text

def consHead (c : Char) : List (List Char) → List (List Char)
  | [] => [[c]]
  | part :: parts => (c :: part) :: parts

def splitAt (separator : Char) : List Char → List (List Char)
  | [] => [[]]
  | c :: rest =>
    if c = separator then [] :: splitAt separator rest else consHead c (splitAt separator rest)

def splitScope : List Char → List (List Char)
  | [] => [[]]
  | ':' :: ':' :: rest => [] :: splitScope rest
  | c :: rest => consHead c (splitScope rest)

def joinScope : List (List Char) → List Char
  | [] => []
  | [part] => part
  | part :: parts => part ++ ':' :: ':' :: joinScope parts

end Intake.Text
