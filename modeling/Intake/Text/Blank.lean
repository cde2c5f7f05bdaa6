/-!
# Blank characters and trimming

A character is blank when it has the Unicode property White_Space.  Trimming removes the blank
characters at both ends of a text.  The zero width space, the byte order mark and the information
separators are not blank.
-/

namespace Intake.Text

/-- The characters with the property White_Space. -/
def isBlank (c : Char) : Bool :=
  let n := c.toNat
  (9 ≤ n && n ≤ 13) || n == 0x20 || n == 0x85 || n == 0xa0 || n == 0x1680 ||
    (0x2000 ≤ n && n ≤ 0x200a) || n == 0x2028 || n == 0x2029 || n == 0x202f || n == 0x205f ||
    n == 0x3000

def trimStart (cs : List Char) : List Char :=
  cs.dropWhile isBlank

def trimChars (cs : List Char) : List Char :=
  (trimStart (trimStart cs).reverse).reverse

/-- A text without the blanks at its ends. -/
def trim (s : String) : String :=
  String.ofList (trimChars s.toList)

def isBlankText (s : String) : Bool :=
  s.toList.all isBlank

end Intake.Text
