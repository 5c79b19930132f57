import Docket.Text.Split

/-!
# Parts put together

Where a separator stands between two texts, their parts are the parts of one
and then those of the other. No part holds a separator, and parts that hold
none come apart again as they were put together.

* `splitAll_append_cons` — the parts of two texts with a separator between them.
* `of_mem_splitAll` — what a part holds.
* `splitAll_append_flatMap` — parts with a separator before each come apart.
-/

namespace Docket.Text

variable {isBreak : Char → Bool} {sep : Char}

/-- Something in front of the first part leaves the others alone. -/
theorem consPart_append (c : Char) {parts : List (List Char)} (h : parts ≠ [])
    (more : List (List Char)) : consPart c (parts ++ more) = consPart c parts ++ more := by
  cases parts with
  | nil => exact absurd rfl h
  | cons part rest => rfl

/-- **Two texts with a separator between them** have the parts of the one and
then those of the other. -/
theorem splitAll_append_cons (h : isBreak sep = true) (before after : List Char) :
    splitAll isBreak (before ++ sep :: after) =
      splitAll isBreak before ++ splitAll isBreak after := by
  induction before with
  | nil =>
      rw [List.nil_append, splitAll.eq_2, if_pos h]
      rfl
  | cons c rest ih =>
      rw [List.cons_append, splitAll, splitAll]
      by_cases hc : isBreak c = true
      · rw [if_pos hc, if_pos hc, ih, List.cons_append]
      · rw [if_neg hc, if_neg hc, ih, consPart_append c (splitAll_ne_nil isBreak rest)]

/-- Text without a separator is one part. -/
theorem splitAll_of_forall_not {cs : List Char} (h : ∀ c ∈ cs, isBreak c = false) :
    splitAll isBreak cs = [cs] := by
  induction cs with
  | nil => rfl
  | cons c rest ih =>
      have hc : ¬ isBreak c = true := by
        rw [h c List.mem_cons_self]
        exact Bool.false_ne_true
      have hrest : splitAll isBreak rest = [rest] :=
        ih fun d hd => h d (List.mem_cons_of_mem c hd)
      rw [splitAll, if_neg hc, hrest]
      rfl

/-- Text without a separator, in particular. -/
theorem splitAll_of_not_mem {cs : List Char} (h : sep ∉ cs) : splitAll (· = sep) cs = [cs] := by
  apply splitAll_of_forall_not
  intro c hc
  rw [decide_eq_false_iff_not]
  intro hsep
  rw [hsep] at hc
  exact h hc

/-- No part holds a separator, and all that a part holds comes from the text. -/
theorem of_mem_splitAll {cs part : List Char} (hpart : part ∈ splitAll isBreak cs) {c : Char}
    (hc : c ∈ part) : isBreak c = false ∧ c ∈ cs := by
  induction cs generalizing part with
  | nil =>
      rw [splitAll, List.mem_singleton] at hpart
      rw [hpart] at hc
      cases hc
  | cons d rest ih =>
      rw [splitAll] at hpart
      by_cases hd : isBreak d = true
      · rw [if_pos hd, List.mem_cons] at hpart
        rcases hpart with hnil | hlater
        · rw [hnil] at hc
          cases hc
        · obtain ⟨hbreak, hmem⟩ := ih hlater hc
          exact ⟨hbreak, List.mem_cons_of_mem d hmem⟩
      · obtain ⟨first, others, hsplit⟩ := List.exists_cons_of_ne_nil (splitAll_ne_nil isBreak rest)
        rw [if_neg hd, hsplit, consPart, List.mem_cons] at hpart
        rw [hsplit] at ih
        rcases hpart with hfirst | hlater
        · rw [hfirst, List.mem_cons] at hc
          rcases hc with hhere | hrest
          · rw [hhere]
            exact ⟨Bool.eq_false_iff.mpr hd, List.mem_cons_self⟩
          · obtain ⟨hbreak, hmem⟩ := ih List.mem_cons_self hrest
            exact ⟨hbreak, List.mem_cons_of_mem d hmem⟩
        · obtain ⟨hbreak, hmem⟩ := ih (List.mem_cons_of_mem first hlater) hc
          exact ⟨hbreak, List.mem_cons_of_mem d hmem⟩

/-- **Parts with a separator before each** come apart as they were, behind the
parts of what stands in front. -/
theorem splitAll_append_flatMap (front : List Char) {parts : List (List Char)}
    (h : ∀ part ∈ parts, sep ∉ part) :
    splitAll (· = sep) (front ++ parts.flatMap (sep :: ·)) = splitAll (· = sep) front ++ parts := by
  induction parts generalizing front with
  | nil => rw [List.flatMap_nil, List.append_nil, List.append_nil]
  | cons part rest ih =>
      have hpart : splitAll (· = sep) part = [part] :=
        splitAll_of_not_mem (h part List.mem_cons_self)
      have hrest : ∀ other ∈ rest, sep ∉ other := fun other hother =>
        h other (List.mem_cons_of_mem part hother)
      calc splitAll (· = sep) (front ++ (part :: rest).flatMap (sep :: ·))
          = splitAll (· = sep) ((front ++ sep :: part) ++ rest.flatMap (sep :: ·)) := by
            rw [List.flatMap_cons, List.append_assoc]
        _ = splitAll (· = sep) (front ++ sep :: part) ++ rest := ih _ hrest
        _ = splitAll (· = sep) front ++ part :: rest := by
            rw [splitAll_append_cons (decide_eq_true rfl), hpart, List.append_assoc,
              List.singleton_append]

/-- Parts with a separator between them are the first one, and the others with a
separator before each. -/
theorem intercalate_cons_eq_flatMap (part : List Char) (rest : List (List Char)) :
    [sep].intercalate (part :: rest) = part ++ rest.flatMap (sep :: ·) := by
  induction rest generalizing part with
  | nil => simp [List.intercalate]
  | cons next others ih =>
      rw [List.intercalate_cons_cons, ih next, List.append_assoc, List.singleton_append,
        List.flatMap_cons, List.cons_append]

/-- What stands in parts that were put together is the separator, or stands in one
of them. -/
theorem of_mem_intercalate {parts : List (List Char)} {c : Char}
    (h : c ∈ [sep].intercalate parts) : c = sep ∨ ∃ part ∈ parts, c ∈ part := by
  cases parts with
  | nil => cases h
  | cons first rest =>
      rw [intercalate_cons_eq_flatMap, List.mem_append] at h
      rcases h with hfirst | hlater
      · exact Or.inr ⟨first, List.mem_cons_self, hfirst⟩
      · obtain ⟨part, hpart, hmem⟩ := List.mem_flatMap.mp hlater
        rcases List.mem_cons.mp hmem with hsep | hinside
        · exact Or.inl hsep
        · exact Or.inr ⟨part, List.mem_cons_of_mem first hpart, hinside⟩

end Docket.Text
