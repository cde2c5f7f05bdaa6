import Intake.Text.Case.Context
import Intake.Text.Case.Shift

/-!
# Upper and lower case

The full case mappings: one character may become several (`ß` in upper case is `SS`).  A capital
sigma becomes a final sigma where a word ends, that is when a cased character comes before it and
none after it, the case-ignorable ones passed over.
-/

namespace Intake.Text

/-- Maps one code point, by the special mappings first and by the runs then. -/
def mapCase (specials : List (Nat × List Nat)) (shifts : List Shift) (c : Char) : List Char :=
  match specials.lookup c.toNat with
  | some codes => codes.map Char.ofNat
  | none =>
    match shifts.findSome? (·.move? c.toNat) with
    | some code => [Char.ofNat code]
    | none => [c]

def upperChar (c : Char) : List Char :=
  mapCase upperSpecials upperShifts c

/-- A character in lower case, where it stands alone. -/
def lowerChar (c : Char) : List Char :=
  mapCase lowerSpecials lowerShifts c

def upper (s : String) : String :=
  String.ofList (s.toList.flatMap upperChar)

/-- Whether the first character that is not case-ignorable is cased. -/
def meetsCased (cs : List Char) : Bool :=
  match cs.dropWhile fun c => caseIgnorable.holds c.toNat with
  | [] => false
  | c :: _ => cased.holds c.toNat

/-- Maps to lower case; `before` holds the characters to the left, nearest first. -/
def lowerChars (before : List Char) : List Char → List Char
  | [] => []
  | c :: rest =>
    let mapped :=
      if c = 'Σ' then
        if meetsCased before && !meetsCased rest then ['ς'] else ['σ']
      else
        lowerChar c
    mapped ++ lowerChars (c :: before) rest

def lower (s : String) : String :=
  String.ofList (lowerChars [] s.toList)

/-- A text with its ASCII letters in lower case and all else as it is. -/
def lowerAscii (s : String) : String :=
  s.map Char.toLower

end Intake.Text
