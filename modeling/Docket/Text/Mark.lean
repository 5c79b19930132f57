import Docket.Text.Mark.Table
import Docket.Text.Printable

/-!
# Marks

Characters that belong to the one before them: accents, vowel signs and the
like. Some take up room of their own and some do not. The combining class of
a mark says where it sits; marks that sit in different places may be written
in any order, and class by class is the usual one.
-/

namespace Docket.Text

/-- The character joins nothing and is no mark, though it extends the one before
it. -/
def nonJoiner : Char := '\u200C'

/-- The character makes its neighbours join, if they can. -/
def joiner : Char := '\u200D'

/-- The mark takes up room beside its character. -/
def isSpacingMark (c : Char) : Bool :=
  inRanges spacingMarkRanges c.toNat

/-- The mark sits on its character. -/
def isNonspacingMark (c : Char) : Bool :=
  c ≠ nonJoiner && inRanges extendingRanges c.toNat && !isSpacingMark c

/-- The character is a mark. -/
def isMark (c : Char) : Bool :=
  isNonspacingMark c || isSpacingMark c

/-- Where a mark sits on its character; zero for a character that starts
afresh. -/
def combiningClass (c : Char) : Nat :=
  match combiningRuns.find? fun (first, last, _) => first ≤ c.toNat && c.toNat ≤ last with
  | some (_, _, place) => place
  | none => 0

/-- The mark silences the vowel of its consonant. -/
def isVirama (c : Char) : Bool :=
  combiningClass c == 9

end Docket.Text
