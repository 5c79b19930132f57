import Docket.Text.Blank
import Mathlib.Data.List.DropRight

/-!
# Trimmed text

Trimming takes all white space from both ends, so there is nothing left to
trim.

Main statements: `trim_trim`; `tidy_of_filled?` and `Tidy.filled?`, what is read
of a text is tidy, and tidy text is read as it is.
-/

namespace Docket.Text

theorem trimChars_eq_rdropWhile (cs : List Char) :
    trimChars cs = (cs.dropWhile isSpace).rdropWhile isSpace :=
  rfl

/-- The beginning of characters without leading spaces has none either. -/
theorem dropWhile_eq_self_of_prefix {part cs : List Char} (hpart : part <+: cs)
    (h : cs.dropWhile isSpace = cs) : part.dropWhile isSpace = part := by
  rw [List.dropWhile_eq_self_iff] at h ⊢
  intro hlength
  have hhead := List.IsPrefix.getElem hpart hlength
  rw [hhead]
  exact h (Nat.lt_of_lt_of_le hlength hpart.length_le)

/-- Trimmed characters do not begin with a space, since they begin as the
characters without their leading spaces do. -/
theorem dropWhile_trimChars (cs : List Char) :
    (trimChars cs).dropWhile isSpace = trimChars cs := by
  have hprefix : trimChars cs <+: cs.dropWhile isSpace := List.rdropWhile_prefix isSpace _
  exact dropWhile_eq_self_of_prefix hprefix (List.dropWhile_idempotent isSpace cs)

/-- Trimmed text is trimmed. -/
theorem trim_trim (s : String) : trim (trim s) = trim s := by
  have hchars : trimChars (trimChars s.toList) = trimChars s.toList := by
    rw [trimChars_eq_rdropWhile, dropWhile_trimChars, trimChars_eq_rdropWhile]
    exact List.rdropWhile_idempotent isSpace _
  rw [trim, toList_trim, hchars]
  rfl

/-- A filled text is not blank. -/
theorem isBlank_of_filled? {s t : String} (h : filled? s = some t) : isBlank t = false := by
  rw [Bool.eq_false_iff, ne_eq, isBlank_iff_trim]
  intro hblank
  unfold filled? at h
  split at h
  · cases h
  · rename_i hfilled
    cases h
    rw [trim_trim] at hblank
    exact hfilled ((isBlank_iff_trim s).mpr hblank)

/-- Text of which something is left after trimming is filled. -/
theorem filled?_of_trim_ne {s : String} (h : trim s ≠ "") : filled? s = some (trim s) :=
  if_neg fun hblank => h ((isBlank_iff_trim s).mp hblank)

/-- Nothing is trimmed where there are no spaces. -/
theorem trim_of_forall {s : String} (h : ∀ c ∈ s.toList, isSpace c = false) : trim s = s := by
  have hleft : s.toList.dropWhile isSpace = s.toList := by
    rw [List.dropWhile_eq_self_iff]
    intro hlength
    rw [h _ (List.getElem_mem hlength)]
    exact Bool.false_ne_true
  have hright : s.toList.rdropWhile isSpace = s.toList := by
    rw [List.rdropWhile_eq_self_iff]
    intro hne
    rw [h _ (List.getLast_mem hne)]
    exact Bool.false_ne_true
  rw [trim, trimChars_eq_rdropWhile, hleft, hright, String.ofList_toList]

/-- The text is not empty, and there is nothing to trim. -/
def Tidy (s : String) : Prop :=
  s ≠ "" ∧ trim s = s

instance (s : String) : Decidable (Tidy s) :=
  inferInstanceAs (Decidable (_ ∧ _))

/-- Tidy text is read as it is. -/
theorem Tidy.filled? {s : String} (h : Tidy s) : filled? s = some s := by
  have htrim : trim s ≠ "" := by
    rw [h.2]
    exact h.1
  rw [filled?_of_trim_ne htrim, h.2]

/-- What is read of a text is tidy. -/
theorem tidy_of_filled? {s t : String} (h : Text.filled? s = some t) : Tidy t := by
  have hblank := isBlank_of_filled? h
  unfold Text.filled? at h
  split at h
  · cases h
  · cases h
    refine ⟨fun hempty => ?_, trim_trim s⟩
    rw [hempty] at hblank
    exact absurd hblank (by decide)

/-- What has been read is read as it is once more. -/
theorem bind_filled?_bind_filled? (text? : Option String) :
    (text?.bind Text.filled?).bind Text.filled? = text?.bind Text.filled? := by
  cases hread : text?.bind Text.filled? with
  | none => rfl
  | some t =>
      obtain ⟨s, -, hs⟩ := Option.bind_eq_some_iff.mp hread
      exact (tidy_of_filled? hs).filled?

end Docket.Text
