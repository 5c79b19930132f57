import Docket.Text.Hex

/-!
# Writing TOML

Texts and sections of a TOML document. A text is written in the first of four
forms in which it needs no escapes: between double quotes, between single
quotes, and between either of them three times. A text that needs escapes in
any of them stands between double quotes, three times if it has several lines.
What stands between three quotes begins on a line of its own if it has
several lines.
-/

namespace Docket.Toml

/-- The length of the longest run of a character; `run` is the length of the
one that leads up to here. -/
def longestRun (c : Char) (run : Nat) : List Char → Nat
  | [] => run
  | d :: rest => if d = c then longestRun c (run + 1) rest else max run (longestRun c 0 rest)

/-- A control character that has to be written as an escape everywhere. -/
def isControl (c : Char) : Bool :=
  (c.toNat < 0x20 && c != '\t' && c != '\n') || c.toNat == 0x7F

/-- There is no escape in the text when double quotes stand around it and
fewer than `quotes` of them in a row stand in it. -/
def isPlainBetweenDouble (quotes : Nat) (cs : List Char) : Bool :=
  !cs.any isControl && !cs.contains '\\' && longestRun '"' 0 cs < quotes

/-- The text can stand between single quotes, of which fewer than `quotes` in a
row stand in it. -/
def fitsBetweenSingle (quotes : Nat) (cs : List Char) : Bool :=
  !cs.any isControl && longestRun '\'' 0 cs < quotes

/-- How one character is written between double quotes. A tab is written as an
escape there even though it could stand for itself. -/
def escapeChar (manyLines : Bool) (c : Char) : List Char :=
  match c with
  | '\x08' => ['\\', 'b']
  | '\t' => ['\\', 't']
  | '\n' => if manyLines then ['\n'] else ['\\', 'n']
  | '\x0c' => ['\\', 'f']
  | '\r' => ['\\', 'r']
  | '\\' => ['\\', '\\']
  | c =>
      if isControl c then
        ['\\', 'u', '0', '0', Text.hexUpper (c.toNat / 16), Text.hexUpper (c.toNat % 16)]
      else [c]

/-- The text with its escapes. Up to `free` double quotes in a row stand for
themselves and the next is an escape; `run` counts those that lead up to
here. -/
def escaped (manyLines : Bool) (free run : Nat) : List Char → List Char
  | [] => []
  | '"' :: rest =>
      if run < free then '"' :: escaped manyLines free (run + 1) rest
      else '\\' :: '"' :: escaped manyLines free 0 rest
  | c :: rest => escapeChar manyLines c ++ escaped manyLines free 0 rest

/-- A text between quotes of one kind, three times on either side. -/
def betweenThree (quote : Char) (manyLines : Bool) (body : List Char) : List Char :=
  let quotes := [quote, quote, quote]
  quotes ++ (if manyLines then ['\n'] else []) ++ body ++ quotes

/-- A text. -/
def textChars (cs : List Char) : List Char :=
  let manyLines := cs.contains '\n'
  if !manyLines && isPlainBetweenDouble 1 cs then '"' :: escaped false 0 0 cs ++ ['"']
  else if !manyLines && fitsBetweenSingle 1 cs then '\'' :: cs ++ ['\'']
  else if isPlainBetweenDouble 3 cs then betweenThree '"' manyLines (escaped true 2 0 cs)
  else if fitsBetweenSingle 3 cs then betweenThree '\'' manyLines cs
  else if manyLines then betweenThree '"' true (escaped true 2 0 cs)
  else '"' :: escaped false 0 0 cs ++ ['"']

/-- A text. -/
def writeText (s : String) : String :=
  String.ofList (textChars s.toList)

/-- A section with its keys, whose values are written already. -/
def writeSection (name : String) (entries : List (String × String)) : String :=
  let lines := entries.map fun (key, value) => key ++ " = " ++ value ++ "\n"
  "[" ++ name ++ "]\n" ++ String.join lines

/-- Sections with an empty line between them. -/
def writeSections (sections : List (String × List (String × String))) : String :=
  "\n".intercalate (sections.map fun (name, entries) => writeSection name entries)

end Docket.Toml
