import Docket.Http.Domain.Table
import Docket.Http.Punycode
import Docket.Text.Composed
import Docket.Text.Direction
import Docket.Text.Joining
import Docket.Text.Lowercase

/-!
# Domain names

A domain name is text in labels, with dots between them. Names that differ
only in case, or in which of several like characters they are typed with, are
one name; it is written in lower case, composed, and with every label that is
not ASCII in its ASCII spelling, behind a marker.

A label does not begin with a mark, has joiners only where they change how it
is written, and spells nothing that has another spelling. If any label of a
name is written from right to left, no label of it may mix the directions.
-/

namespace Docket.Http.Domain

open Text

/-- What the characters in the table stand for. -/
def spellings : List SpellingRow :=
  spellingRows.map SpellingRow.ofLine

/-- What a character stands for; none where it may not stand. -/
def spelling? (c : Char) : Option (List Char) :=
  if c.toNat < 0x80 then some [c.toLower]
  else if c = nonJoiner ∨ c = joiner then some [c]
  else if inRanges ignoredRanges c.toNat then some []
  else if inRanges refusedRanges c.toNat || inRanges invisibleRanges c.toNat then none
  else some ((spellingOf? spellings c).getD (lowerChar c))

/-- The ASCII characters that no name may hold. -/
def isRefused (c : Char) : Bool :=
  c.toNat ≤ 0x20 || c = '\x7F'
    || ['%', '#', '/', ':', '<', '>', '?', '@', '[', '\\', ']', '^', '|'].contains c

/-- The usual form of a text. -/
def usual? (cs : List Char) : Option (List Char) := do
  let words ← cs.mapM spelling?
  let text := composed words.flatten
  if text.any isRefused then none else some text

/-- The joiners of a label stand where they change how it is written; `before`
is what stands before, last character first. -/
def joinersFit (before : List Char) : List Char → Bool
  | [] => true
  | c :: rest =>
      let fits :=
        if c = joiner then before.head?.any isVirama
        else if c = nonJoiner then
          before.head?.any isVirama
            || (before.dropWhile isTransparent).head?.any joinsNext
              && (rest.dropWhile isTransparent).head?.any joinsPrevious
        else true
      fits && joinersFit (c :: before) rest

/-- The label may be written. -/
def isLabel (text : List Char) : Bool :=
  !text.head?.any isMark && joinersFit [] text

/-- All characters are ASCII. -/
def isAscii (cs : List Char) : Bool :=
  cs.all fun c => c.toNat < 128

/-- Stands before a label in its ASCII spelling. -/
def marker : List Char := ['x', 'n', '-', '-']

/-- A label as text, and as it is written. -/
structure Label where
  text : List Char
  written : List Char

/-- The most characters that are spelled in ASCII. -/
def encodeLimit : Nat := 1000

/-- The longest ASCII spelling that is read. -/
def decodeLimit : Nat := 2000

/-- The label that is spelled in ASCII behind the marker. -/
def spelledLabel? (code : List Char) : Option (List Char) := do
  if !isAscii code || code.getLast?.all (· = '-') || decodeLimit < code.length then none
  let text ← Punycode.decode? code
  if usual? text = some text ∧ isLabel text then some text else none

/-- A label in its usual form. -/
def label? (cs : List Char) : Option Label := do
  if marker.isPrefixOf cs then
    return ⟨← spelledLabel? (cs.drop marker.length), cs⟩
  if isAscii cs then
    return ⟨cs, cs⟩
  if isLabel cs ∧ cs.length ≤ encodeLimit then
    return ⟨cs, marker ++ Punycode.encode cs⟩
  none

/-- The label has something that is written from right to left. -/
def goesLeft (text : List Char) : Bool :=
  text.any fun c => direction c = .rightToLeft ∨ direction c = .arabicDigit

/-- A label begins with a letter, keeps to the direction of that letter, and
ends with a letter or a digit, marks on it apart. -/
def keepsDirection (text : List Char) : Bool :=
  let ways := text.map direction
  let last := (ways.reverse.dropWhile (· = .mark)).head?
  match ways with
  | [] => true
  | .leftToRight :: _ =>
      !goesLeft text && last.any fun d => d = .leftToRight ∨ d = .digit
  | .rightToLeft :: _ =>
      !ways.contains .leftToRight
        && (last.any fun d => d = .rightToLeft ∨ d = .digit ∨ d = .arabicDigit)
        && !(ways.contains .digit && ways.contains .arabicDigit)
  | _ => false

/-- How a name is written; none for what is no name. -/
def written? (cs : List Char) : Option (List Char) := do
  let labels ← (splitAll (· = '.') (← usual? cs)).mapM label?
  if (labels.any fun l => goesLeft l.text) && !(labels.all fun l => keepsDirection l.text) then none
  return ['.'].intercalate (labels.map Label.written)

end Docket.Http.Domain
