import Docket.Http.Percent
import Docket.Proofs.Text.Utf8

/-!
# What escaped text holds

Escaped text has percent signs, letters and digits, and what was allowed to
stand. A character that has to be escaped stands nowhere in it, so that it can
part what was escaped from something else. No text is lost when it is escaped.

* `of_mem_encode`, `not_mem_encode` — what text holds that was escaped.
* `encode_inj` — no two texts are escaped alike.
* `formDecode_formEncode`, `of_mem_formEncode` — the same for form values.
-/

namespace Docket.Http.Percent

open Text

variable {set : List Char} {cs : List Char} {c : Char}

/-- A digit is a letter or a number. -/
theorem isAlphanum_hexUpper {n : Nat} (h : n < 16) : (hexUpper n).isAlphanum = true := by
  have all : ∀ m ∈ List.range 16, (hexUpper m).isAlphanum = true := by decide
  exact all n (List.mem_range.mpr h)

/-- An escaped character holds percent signs, letters and digits. -/
theorem of_mem_charEscape {d : Char} (h : c ∈ charEscape d) : c = '%' ∨ c.isAlphanum = true := by
  obtain ⟨b, -, hb⟩ := List.mem_flatMap.mp h
  have hbyte : b.toNat < 256 := b.toNat_lt
  rw [byteChars, List.mem_cons, List.mem_cons, List.mem_singleton] at hb
  rcases hb with hpercent | hhigh | hlow
  · exact Or.inl hpercent
  · right
    rw [hhigh]
    exact isAlphanum_hexUpper (by omega)
  · right
    rw [hlow]
    exact isAlphanum_hexUpper (by omega)

/-- Escaped text holds percent signs, letters, digits, and what was allowed to
stand. -/
theorem of_mem_encode (h : c ∈ encode set cs) :
    c = '%' ∨ c.isAlphanum = true ∨ c ∈ cs ∧ c ∉ set := by
  obtain ⟨d, hd, hc⟩ := List.mem_flatMap.mp h
  by_cases hescape : (isUnsafe d || set.contains d) = true
  · rw [if_pos hescape] at hc
    rcases of_mem_charEscape hc with hpercent | halnum
    · exact Or.inl hpercent
    · exact Or.inr (Or.inl halnum)
  · rw [if_neg hescape, List.mem_singleton] at hc
    rw [Bool.or_eq_true, not_or, List.contains_iff_mem] at hescape
    rw [hc]
    exact Or.inr (Or.inr ⟨hd, hescape.2⟩)

/-- A character that has to be escaped does not stand in escaped text. -/
theorem not_mem_encode (hset : c ∈ set) (hpercent : c ≠ '%') (hsign : c.isAlphanum = false) :
    c ∉ encode set cs := by
  intro hmem
  rcases of_mem_encode hmem with heq | halnum | ⟨-, hnot⟩
  · exact hpercent heq
  · rw [hsign] at halnum
    cases halnum
  · exact hnot hset

/-- No two texts are escaped alike. -/
theorem encode_inj (h : '%' ∈ set) {ds : List Char} : encode set cs = encode set ds ↔ cs = ds := by
  constructor
  · intro heq
    have hbytes := congrArg decode heq
    rw [decode_encode h, decode_encode h] at hbytes
    exact bytesOf_inj.mp hbytes
  · intro heq
    rw [heq]

/-- A character of a form value holds none of the signs that part values. -/
theorem of_mem_formChar {d : Char} (h : c ∈ formChar d) :
    c.isAlphanum = true ∨ c ∈ ['%', '+', '*', '-', '.', '_'] := by
  rw [formChar] at h
  by_cases hplain : d.isAlphanum = true ∨ d ∈ ['*', '-', '.', '_']
  · rw [if_pos hplain, List.mem_singleton] at h
    rw [h]
    exact hplain.imp_right fun hsign => List.mem_cons_of_mem _ (List.mem_cons_of_mem _ hsign)
  rw [if_neg hplain] at h
  by_cases hspace : d = ' '
  · rw [if_pos hspace, List.mem_singleton] at h
    rw [h]
    exact Or.inr (by decide)
  · rw [if_neg hspace] at h
    rcases of_mem_charEscape h with hpercent | halnum
    · rw [hpercent]
      exact Or.inr (by decide)
    · exact Or.inl halnum

/-- Neither does a form value. -/
theorem of_mem_formEncode (h : c ∈ formEncode cs) :
    c.isAlphanum = true ∨ c ∈ ['%', '+', '*', '-', '.', '_'] := by
  obtain ⟨d, -, hc⟩ := List.mem_flatMap.mp h
  exact of_mem_formChar hc

/-- The character in front of form text is read as its own bytes. -/
theorem formDecode_formChar_append (d : Char) (rest : List Char) :
    formDecode (formChar d ++ rest) = String.utf8EncodeChar d ++ formDecode rest := by
  unfold formDecode
  rw [List.map_append, formChar]
  by_cases hplain : d.isAlphanum = true ∨ d ∈ ['*', '-', '.', '_']
  · have hplus : d ≠ '+' := by
      intro heq
      rw [heq] at hplain
      exact absurd hplain (by decide)
    have hpercent : d ≠ '%' := by
      intro heq
      rw [heq] at hplain
      exact absurd hplain (by decide)
    rw [if_pos hplain, List.map_singleton, if_neg hplus, List.singleton_append,
      decode_cons_of_ne hpercent]
  rw [if_neg hplain]
  by_cases hspace : d = ' '
  · subst hspace
    rw [if_pos rfl, List.map_singleton, if_pos rfl, List.singleton_append,
      decode_cons_of_ne (by decide)]
  · -- an escaped character holds no plus that would be read as a space
    have hsame : (charEscape d).map (fun c => if c = '+' then ' ' else c) = charEscape d := by
      have hplus : ∀ c ∈ charEscape d, (if c = '+' then ' ' else c) = id c := by
        intro c hc
        apply if_neg
        intro heq
        rw [heq] at hc
        exact absurd (of_mem_charEscape hc) (by decide)
      rw [List.map_congr_left hplus, List.map_id]
    rw [if_neg hspace, hsame, charEscape, decode_flatMap_byteChars]

/-- **A form value is read as the bytes of the text.** -/
theorem formDecode_formEncode (cs : List Char) : formDecode (formEncode cs) = bytesOf cs := by
  induction cs with
  | nil => rfl
  | cons c rest ih =>
      calc formDecode (formEncode (c :: rest))
          = formDecode (formChar c ++ formEncode rest) := by rw [formEncode, List.flatMap_cons]; rfl
        _ = String.utf8EncodeChar c ++ formDecode (formEncode rest) :=
            formDecode_formChar_append c (formEncode rest)
        _ = bytesOf (c :: rest) := by rw [ih, bytesOf, bytesOf, List.flatMap_cons]

end Docket.Http.Percent
