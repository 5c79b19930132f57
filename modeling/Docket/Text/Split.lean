/-!
# Parts of text

Text in parts, between the characters of some kind.

Main statement: `intercalate_splitAll`, the parts with the separator between
them are the text.
-/

namespace Docket.Text

/-- Puts a character in front of the first part. -/
def consPart (c : Char) : List (List Char) → List (List Char)
  | part :: rest => (c :: part) :: rest
  | [] => [[c]]

/-- The parts of text between the characters of a kind; there is always at
least one. -/
def splitAll (isBreak : Char → Bool) : List Char → List (List Char)
  | [] => [[]]
  | c :: rest =>
      if isBreak c then [] :: splitAll isBreak rest else consPart c (splitAll isBreak rest)

/-- There is always a part. -/
theorem splitAll_ne_nil (isBreak : Char → Bool) (cs : List Char) : splitAll isBreak cs ≠ [] := by
  cases cs with
  | nil => simp [splitAll]
  | cons c rest =>
      rw [splitAll]
      split
      · simp
      · cases splitAll isBreak rest <;> simp [consPart]

/-- The parts with the separator between them are the text. -/
theorem intercalate_splitAll (sep : Char) (cs : List Char) :
    [sep].intercalate (splitAll (· = sep) cs) = cs := by
  induction cs with
  | nil => rfl
  | cons c rest ih =>
      rw [splitAll]
      obtain ⟨part, more, h⟩ := List.exists_cons_of_ne_nil (splitAll_ne_nil (· = sep) rest)
      rw [h] at ih ⊢
      split
      · next hc =>
          simp only [decide_eq_true_eq] at hc
          subst hc
          rw [List.intercalate_cons_cons, ih]
          rfl
      · cases more with
        | nil => simpa [consPart, List.intercalate] using ih
        | cons next others =>
            rw [List.intercalate_cons_cons] at ih
            rw [consPart, List.intercalate_cons_cons, ← ih]
            rfl

end Docket.Text
