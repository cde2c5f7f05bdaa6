import Intake.Numeral

/-!
# Blanks, comments, strings and keys of TOML

Functions that read the front of a text answer with the rest of it, and with nothing where the text
is not well formed.
-/

namespace Intake.Toml

/-- Spaces and tabs. -/
def isSpace (c : Char) : Bool :=
  c = ' ' || c = '\t'

def skipSpaces (cs : List Char) : List Char :=
  cs.dropWhile isSpace

/-- Control characters, which occur in comments and strings only as tabs. -/
def isControl (c : Char) : Bool :=
  (c.toNat < 0x20 && c ≠ '\t') || c.toNat = 0x7f

def takeNewline? : List Char → Option (List Char)
  | '\n' :: rest => some rest
  | '\r' :: '\n' :: rest => some rest
  | _ => none

def atLineEnd (cs : List Char) : Bool :=
  cs.isEmpty || (takeNewline? cs).isSome

/-- Drops what a comment says, up to the end of the line. -/
def skipCommentText? : List Char → Option (List Char)
  | [] => some []
  | c :: rest =>
    if atLineEnd (c :: rest) then some (c :: rest)
    else if isControl c then none
    else skipCommentText? rest

def skipComment? (cs : List Char) : Option (List Char) :=
  match skipSpaces cs with
  | '#' :: rest => skipCommentText? rest
  | rest => some rest

/-- Ends a line: spaces, a comment and the line end, or the end of the text. -/
def endLine? (cs : List Char) : Option (List Char) :=
  (skipComment? cs).bind fun rest => if rest.isEmpty then some [] else takeNewline? rest

/-- Drops spaces, comments and line ends. -/
def skipLines? : (fuel : Nat) → List Char → Option (List Char)
  | 0, cs => some cs
  | fuel + 1, cs =>
    (skipComment? cs).bind fun rest =>
      match takeNewline? rest with
      | some rest => skipLines? fuel rest
      | none => some rest

/-! ### Strings -/

def hexValue? (digits : List Char) : Option Nat :=
  digits.foldl
    (fun acc c => acc.bind fun n =>
      if c.isDigit then some (16 * n + digitValue c)
      else if 'a' ≤ c.toLower && c.toLower ≤ 'f' then
        some (16 * n + (c.toLower.toNat - 'a'.toNat + 10))
      else none)
    (some 0)

/-- Reads an escaped code point of a number of digits. -/
def takeCode? (count : Nat) (cs : List Char) : Option (Char × List Char) :=
  if cs.length < count then none
  else (hexValue? (cs.take count)).bind fun n =>
    if h : n.isValidChar then some (Char.ofNatAux n h, cs.drop count) else none

/-- Reads an escape, after its backslash. -/
def takeEscape? : List Char → Option (Char × List Char)
  | 'b' :: rest => some ('\x08', rest)
  | 't' :: rest => some ('\t', rest)
  | 'n' :: rest => some ('\n', rest)
  | 'f' :: rest => some ('\x0c', rest)
  | 'r' :: rest => some ('\r', rest)
  | 'e' :: rest => some ('\x1b', rest)
  | '"' :: rest => some ('"', rest)
  | '\\' :: rest => some ('\\', rest)
  | 'x' :: rest => takeCode? 2 rest
  | 'u' :: rest => takeCode? 4 rest
  | 'U' :: rest => takeCode? 8 rest
  | _ => none

/-- Reads a basic string of one line, after its quote. -/
def takeBasic? : (fuel : Nat) → List Char → Option (List Char × List Char)
  | 0, _ => none
  | _, [] => none
  | fuel + 1, c :: rest =>
    if c = '"' then some ([], rest)
    else if c = '\\' then do
      let (d, rest) ← takeEscape? rest
      let (text, rest) ← takeBasic? fuel rest
      return (d :: text, rest)
    else if isControl c then none
    else (takeBasic? fuel rest).map fun (text, rest) => (c :: text, rest)

/-- Reads a literal string of one line, after its quote. -/
def takeLiteral? : List Char → Option (List Char × List Char)
  | [] => none
  | c :: rest =>
    if c = '\'' then some ([], rest)
    else if isControl c then none
    else (takeLiteral? rest).map fun (text, rest) => (c :: text, rest)

/-- Drops spaces and line ends, after a backslash at the end of a line. -/
def skipSpacesAndLines : List Char → List Char
  | [] => []
  | '\r' :: '\n' :: rest => skipSpacesAndLines rest
  | c :: rest => if isSpace c || c = '\n' then skipSpacesAndLines rest else c :: rest

/-- Reads a string of several lines, after its three quotes.  Up to two quotes may stand before the
three that end it. -/
def takeLines? (quote : Char) (escapes : Bool) :
    (fuel : Nat) → List Char → Option (List Char × List Char)
  | 0, _ => none
  | _, [] => none
  | fuel + 1, c :: rest =>
    let quotes := ((c :: rest).takeWhile (· = quote)).length
    if 3 ≤ quotes then
      if quotes ≤ 5 then some (List.replicate (quotes - 3) quote, (c :: rest).drop quotes) else none
    else if escapes && c = '\\' then
      if atLineEnd (skipSpaces rest) then takeLines? quote escapes fuel (skipSpacesAndLines rest)
      else do
        let (d, rest) ← takeEscape? rest
        let (text, rest) ← takeLines? quote escapes fuel rest
        return (d :: text, rest)
    else if isControl c && !atLineEnd (c :: rest) && c ≠ '\n' then none
    else (takeLines? quote escapes fuel rest).map fun (text, rest) => (c :: text, rest)

/-- Drops the line end right after the quotes of a string of several lines. -/
def skipFirstLineEnd (cs : List Char) : List Char :=
  (takeNewline? cs).getD cs

def takeString? (cs : List Char) : Option (List Char × List Char) :=
  match cs with
  | '"' :: '"' :: '"' :: rest => takeLines? '"' true cs.length (skipFirstLineEnd rest)
  | '\'' :: '\'' :: '\'' :: rest => takeLines? '\'' false cs.length (skipFirstLineEnd rest)
  | '"' :: rest => takeBasic? cs.length rest
  | '\'' :: rest => takeLiteral? rest
  | _ => none

/-! ### Keys -/

/-- How many parts a key has at most, and how many brackets and braces stand around a value. -/
def nestingLimit : Nat :=
  80

def isBare (c : Char) : Bool :=
  c.isAlphanum || c = '_' || c = '-'

def takeKeyPart? (cs : List Char) : Option (String × List Char) :=
  match cs with
  | '"' :: rest => (takeBasic? cs.length rest).map fun (text, rest) => (String.ofList text, rest)
  | '\'' :: rest => (takeLiteral? rest).map fun (text, rest) => (String.ofList text, rest)
  | cs =>
    let part := cs.takeWhile isBare
    if part.isEmpty then none else some (String.ofList part, cs.drop part.length)

/-- Reads a key of a number of parts at most, with points between them. -/
def takeKeyParts? : (most : Nat) → List Char → Option (List String × List Char)
  | 0, _ => none
  | most + 1, cs => do
    let (part, rest) ← takeKeyPart? (skipSpaces cs)
    match skipSpaces rest with
    | '.' :: rest => (takeKeyParts? most rest).map fun (parts, rest) => (part :: parts, rest)
    | rest => return ([part], rest)

def takeKey? (cs : List Char) : Option (List String × List Char) :=
  takeKeyParts? nestingLimit cs

end Intake.Toml
