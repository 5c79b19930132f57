import Docket.Text.Split

/-!
# Spellings

A table that gives each of many characters a word. It is kept in rows; a row
begins at some code point and has the words of the characters from there on.
-/

namespace Docket.Text

/-- Words of consecutive characters, the first of which has this code point. -/
structure SpellingRow where
  first : Nat
  words : List (List Char)

/-- A row whose words stand in a line of text. -/
def SpellingRow.ofLine (line : Nat × String) : SpellingRow :=
  ⟨line.1, splitAll (· = ' ') line.2.toList⟩

/-- The word of a character. -/
def spellingOf? (rows : List SpellingRow) (c : Char) : Option (List Char) :=
  rows.findSome? fun row => if row.first ≤ c.toNat then row.words[c.toNat - row.first]? else none

/-- The first character that has this word. -/
def spelledBy? (rows : List SpellingRow) (word : List Char) : Option Char :=
  rows.findSome? fun row =>
    (row.words.findIdx? (· == word)).map fun i => Char.ofNat (row.first + i)

end Docket.Text
