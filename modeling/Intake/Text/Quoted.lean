import Intake.Text.Extender
import Intake.Text.Printable

/-!
# Quoted texts

A quoted text stands between double quotes.  A quote, a backslash, a line feed, a carriage return,
a tab and the null character are escaped by a letter; any other character that is not printable,
and every grapheme extender, by its code point in hexadecimal.
-/

namespace Intake.Text

/-- The digits of a number in base 16, in lower case and without leading zeros. -/
def hexDigits (n : Nat) : List Char :=
  Nat.toDigits 16 n

def escapeCode (c : Char) : List Char :=
  ['\\', 'u', '\x7b'] ++ hexDigits c.toNat ++ ['\x7d']

def escape (c : Char) : List Char :=
  if c = '"' then ['\\', '"']
  else if c = '\\' then ['\\', '\\']
  else if c = '\n' then ['\\', 'n']
  else if c = '\r' then ['\\', 'r']
  else if c = '\t' then ['\\', 't']
  else if c = '\x00' then ['\\', '0']
  else if isExtender c then escapeCode c
  else if isPrintable c then [c]
  else escapeCode c

def quote (s : String) : String :=
  String.ofList ('"' :: s.toList.flatMap escape ++ ['"'])

end Intake.Text
