import Docket.Text.Composed.Table
import Docket.Text.Mark
import Docket.Text.Spelling

/-!
# Composed text

Many characters can be written in two ways: whole, or as the character they
begin with and the marks on it. Composed text has the whole ones wherever
there are any, and the marks that remain in their usual order. Two texts that
differ in nothing else have the same composed form.

The table has all characters whose usual form is the whole one; what is
always written apart, or as some other character, is not in it.
-/

namespace Docket.Text

/-- The characters that are made of others, Korean syllables apart. -/
def composites : List SpellingRow :=
  compositeRows.map SpellingRow.ofLine

/-- The parts of the Korean syllable with this number. A syllable is a leading
consonant, a vowel and perhaps a trailing consonant, and the syllables follow
one another in the order of these three. -/
def syllableParts (n : Nat) : List Char :=
  let lead := Char.ofNat (0x1100 + n / 588)
  let vowel := Char.ofNat (0x1161 + n % 588 / 28)
  if n % 28 = 0 then [lead, vowel] else [lead, vowel, Char.ofNat (0x11A7 + n % 28)]

/-- The syllable that two characters make. -/
def syllable? (c d : Char) : Option Char :=
  if 0x1100 ≤ c.toNat ∧ c.toNat ≤ 0x1112 ∧ 0x1161 ≤ d.toNat ∧ d.toNat ≤ 0x1175 then
    some (Char.ofNat (0xAC00 + ((c.toNat - 0x1100) * 21 + (d.toNat - 0x1161)) * 28))
  else if 0xAC00 ≤ c.toNat ∧ c.toNat ≤ 0xD7A3 ∧ (c.toNat - 0xAC00) % 28 = 0
      ∧ 0x11A8 ≤ d.toNat ∧ d.toNat ≤ 0x11C2 then
    some (Char.ofNat (c.toNat + (d.toNat - 0x11A7)))
  else none

/-- What a character is made of. -/
def charParts (c : Char) : List Char :=
  if c.toNat < 0xC0 then [c]
  else if 0xAC00 ≤ c.toNat ∧ c.toNat ≤ 0xD7A3 then syllableParts (c.toNat - 0xAC00)
  else (spellingOf? composites c).getD [c]

/-- Puts a mark behind the marks of no greater class; `before` is the text so
far, last character first. -/
def settleMark (before : List Char) (c : Char) : List Char :=
  match before with
  | d :: rest =>
      if combiningClass c ≠ 0 ∧ combiningClass c < combiningClass d then d :: settleMark rest c
      else c :: before
  | [] => [c]

/-- The text with every character taken apart and the marks in their usual
order. -/
def takenApart (cs : List Char) : List Char :=
  ((cs.flatMap charParts).foldl settleMark []).reverse

/-- The character that a character and what follows it make. -/
def compose? (c d : Char) : Option Char :=
  (syllable? c d).or (spelledBy? composites (charParts c ++ [d]))

/-- Text that is being put together: what is finished, last character first,
the character to which marks may still come, and the marks that stay behind
it, last one first. -/
structure Composing where
  done : List Char
  base? : Option Char
  marks : List Char

/-- The text so far, last character first. -/
def Composing.before (s : Composing) : List Char :=
  s.marks ++ s.base?.toList ++ s.done

/-- A mark reaches the character if no mark before it sits in the same place. -/
def Composing.reaches (s : Composing) (c : Char) : Bool :=
  match s.marks with
  | [] => true
  | mark :: _ => combiningClass mark < combiningClass c

/-- Takes in the next character. -/
def Composing.add (s : Composing) (c : Char) : Composing :=
  match if s.reaches c then s.base?.bind (compose? · c) else none with
  | some whole => { s with base? := some whole }
  | none =>
      if combiningClass c = 0 then ⟨s.before, some c, []⟩
      else { s with marks := c :: s.marks }

/-- The composed form of text. -/
def composed (cs : List Char) : List Char :=
  ((takenApart cs).foldl Composing.add ⟨[], none, []⟩).before.reverse

end Docket.Text
