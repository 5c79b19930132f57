import Docket.Proofs.Text.Blank
import Docket.Text.Number

/-!
# Numbers written and read

Main statements: `number?_eq_some_iff`, what is read as a number is decimal
digits that write it; `number?_toString`, a number below the limit is read from
its decimal text; `lt_of_number?`, and no other is read.
-/

namespace Docket.Text

/-- The characters are decimal digits. -/
def Digits (cs : List Char) : Prop :=
  ∀ c ∈ cs, c.isDigit = true

instance (cs : List Char) : Decidable (Digits cs) :=
  decidable_of_iff (cs.all Char.isDigit = true) List.all_eq_true

/-- The bounds of a digit as a number. -/
theorem toNat_of_isDigit {c : Char} (h : c.isDigit = true) : 48 ≤ c.toNat ∧ c.toNat ≤ 57 := by
  simp only [Char.isDigit, Bool.and_eq_true, decide_eq_true_eq] at h
  exact h

/-- The decimal digits of a number write it. -/
theorem decimalValue_toDigits (n : Nat) : decimalValue (Nat.toDigits 10 n) = n := by
  have hdigits : Nat.ofDigitChars 10 (Nat.toDigits 10 n) 0 = n := Nat.ofDigitChars_ten_toDigits
  rw [Nat.ofDigitChars_eq_foldl] at hdigits
  simpa [decimalValue, Nat.mul_comm] using hdigits

theorem toList_toString (n : Nat) : (toString n).toList = Nat.toDigits 10 n := by
  rw [Nat.toString_eq_ofList_toDigits, String.toList_ofList]

theorem digits_toString (n : Nat) : Digits (toString n).toList := by
  intro c hc
  rw [toList_toString] at hc
  exact Nat.isDigit_of_mem_toDigits (b := 10) (by decide) (by decide) hc

/-- A text that writes a number: decimal digits, at least one, perhaps after a
plus sign. -/
inductive Writes (n : Nat) (s : String) : Prop
  | digits (ds : List Char) (filled : ds ≠ []) (all : Digits ds)
      (value : decimalValue ds = n) (sign : s.toList = ds ∨ s.toList = '+' :: ds)

/-- The characters behind a plus sign. -/
def unsigned : List Char → List Char
  | '+' :: rest => rest
  | all => all

theorem number?_eq (limit : Nat) (s : String) :
    number? limit s =
      if (unsigned s.toList).isEmpty || !(unsigned s.toList).all Char.isDigit then none
      else if decimalValue (unsigned s.toList) < limit then
        some (decimalValue (unsigned s.toList))
      else none :=
  rfl

/-- Digits do not begin with a sign. -/
theorem unsigned_eq_iff {cs ds : List Char} (hdigits : Digits ds) :
    unsigned cs = ds ↔ cs = ds ∨ cs = '+' :: ds := by
  unfold unsigned
  split
  · rename_i rest
    have hplus : '+' :: rest ≠ ds := by
      rintro rfl
      exact absurd (hdigits '+' List.mem_cons_self) (by decide)
    simp [hplus]
  · rename_i hplain
    exact (or_iff_left fun hplus => hplain ds hplus).symm

/-- What is read as a number writes it, and the number is below the limit. -/
theorem number?_eq_some_iff {limit n : Nat} {s : String} :
    number? limit s = some n ↔ Writes n s ∧ n < limit := by
  rw [number?_eq]
  constructor
  · intro h
    simp only [Option.ite_none_left_eq_some, Option.ite_none_right_eq_some, Bool.or_eq_true,
      Bool.not_eq_true', not_or, Bool.not_eq_true, Bool.not_eq_false, List.isEmpty_eq_false_iff,
      List.all_eq_true, Option.some_inj] at h
    obtain ⟨⟨hfilled, hdigits⟩, hlt, hvalue⟩ := h
    rw [hvalue] at hlt
    exact ⟨.digits _ hfilled hdigits hvalue ((unsigned_eq_iff hdigits).mp rfl), hlt⟩
  · rintro ⟨⟨ds, hfilled, hdigits, rfl, hsign⟩, hlt⟩
    rw [(unsigned_eq_iff hdigits).mpr hsign, if_neg (by simpa using ⟨hfilled, hdigits⟩), if_pos hlt]

/-- A number that is read is below the limit. -/
theorem lt_of_number? {limit n : Nat} {s : String} (h : number? limit s = some n) : n < limit :=
  (number?_eq_some_iff.mp h).2

/-- The decimal text of a number writes it. -/
theorem writes_toString (n : Nat) : Writes n (toString n) := by
  have hfilled : (toString n).toList ≠ [] := by
    rw [toList_toString]
    exact Nat.toDigits_ne_nil
  have hvalue : decimalValue (toString n).toList = n := by
    rw [toList_toString, decimalValue_toDigits]
  exact .digits _ hfilled (digits_toString n) hvalue (.inl rfl)

/-- A number below the limit is read from its decimal text. -/
theorem number?_toString {limit n : Nat} (h : n < limit) : number? limit (toString n) = some n :=
  number?_eq_some_iff.mpr ⟨writes_toString n, h⟩

/-- A decimal text is tidy. -/
theorem tidy_toString (n : Nat) : Tidy (toString n) := by
  constructor
  · intro hempty
    have htext := toList_toString n
    rw [hempty] at htext
    exact Nat.toDigits_ne_nil htext.symm
  · refine trim_of_forall fun c hc => ?_
    obtain ⟨hlow, hhigh⟩ := toNat_of_isDigit (digits_toString n c hc)
    simp [isSpace]
    omega

end Docket.Text
