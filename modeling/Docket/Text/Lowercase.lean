import Docket.Text.Lowercase.Table
import Docket.Text.Printable

/-!
# Lower case of any script

The lower-case form of text over all of Unicode. Two rules go beyond one
character for another: the dotted capital I becomes two characters, and a
capital sigma at the end of a word becomes the final sigma.
-/

namespace Docket.Text

/-- The lower-case form of one character, taken on its own. -/
def lowerChar (c : Char) : List Char :=
  if c.toNat = 0x130 then ['i', '\u0307']
  else
    match caseRuns.find? fun run =>
        run.first ≤ c.toNat && c.toNat ≤ run.last && (c.toNat - run.first) % run.stride == 0 with
    | some run => [Char.ofNat (c.toNat + run.shift).toNat]
    | none => [c]

/-- Past the case-ignorable characters stands a cased one. -/
def nextIsCased (cs : List Char) : Bool :=
  match cs.dropWhile fun c => inRanges caseIgnorableRanges c.toNat with
  | c :: _ => inRanges casedRanges c.toNat
  | [] => false

/-- Lower case of `cs`, with `before` the characters already passed, nearest
first. -/
def lowerChars (before : List Char) : List Char → List Char
  | [] => []
  | c :: rest =>
      (if c = 'Σ' then
        if nextIsCased before && !nextIsCased rest then ['ς'] else ['σ']
      else lowerChar c) ++ lowerChars (c :: before) rest

/-- The text in lower case. -/
def lowercase (s : String) : String :=
  String.ofList (lowerChars [] s.toList)

end Docket.Text
