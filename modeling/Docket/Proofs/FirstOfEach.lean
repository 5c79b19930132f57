import Mathlib.Data.List.Nodup

/-!
# The first of each key

Rows are merged by their identity, and offers are listed by their target. Both
go through what comes and keep, of the elements with one key, the first, and
none whose key was seen before. What is kept is said here once, for elements and
keys of any kind.

* `firstOfEach_congr`, `firstOfEach_append` — it depends on which keys were
  seen, and those of the elements in front are among them.
* `mem_keys_firstOfEach`, `nodup_keys_firstOfEach` — the keys that are kept, each
  of them once.
* `firstOfEach_eq_self`, `firstOfEach_eq_nil_iff` — when all is kept, and when
  nothing.
-/

namespace Docket

variable {α κ : Type} [DecidableEq κ]

/-- Of some elements the first with each key, in their order, without those whose
key was seen before. -/
def firstOfEach (key : α → κ) (seen : List κ) : List α → List α
  | [] => []
  | a :: rest =>
      if key a ∈ seen then firstOfEach key seen rest
      else a :: firstOfEach key (key a :: seen) rest

variable {key : α → κ} {seen seen' : List κ} {as : List α}

theorem firstOfEach_sublist (key : α → κ) (seen : List κ) (as : List α) :
    (firstOfEach key seen as).Sublist as := by
  induction as generalizing seen with
  | nil => exact .slnil
  | cons a rest ih =>
      rw [firstOfEach]
      split
      · exact (ih seen).cons a
      · exact (ih _).cons_cons a

/-- How often a key was seen, and in which order, makes no difference. -/
theorem firstOfEach_congr (h : ∀ k, k ∈ seen ↔ k ∈ seen') (as : List α) :
    firstOfEach key seen as = firstOfEach key seen' as := by
  induction as generalizing seen seen' with
  | nil => rfl
  | cons a rest ih =>
      have hcons : ∀ k, k ∈ key a :: seen ↔ k ∈ key a :: seen' := by
        intro k
        rw [List.mem_cons, List.mem_cons, h k]
      rw [firstOfEach, firstOfEach, ih h, ih hcons]
      by_cases hseen : key a ∈ seen
      · rw [if_pos hseen, if_pos ((h _).mp hseen)]
      · rw [if_neg hseen, if_neg (mt (h _).mpr hseen)]

/-- For what comes later the keys of what came before are seen. -/
theorem firstOfEach_append (key : α → κ) (seen : List κ) (as later : List α) :
    firstOfEach key seen (as ++ later) =
      firstOfEach key seen as ++ firstOfEach key (seen ++ as.map key) later := by
  induction as generalizing seen with
  | nil =>
      rw [List.map_nil, List.append_nil]
      rfl
  | cons a rest ih =>
      have hsame : ∀ k, k ∈ (key a :: seen) ++ rest.map key ↔ k ∈ seen ++ (a :: rest).map key :=
        fun k => List.perm_middle.symm.mem_iff
      rw [List.cons_append, firstOfEach, firstOfEach, ih, ih, firstOfEach_congr hsame]
      by_cases hseen : key a ∈ seen
      · have hagain : ∀ k, k ∈ seen ++ rest.map key ↔ k ∈ seen ++ (a :: rest).map key := by
          intro k
          rw [← hsame, List.cons_append, List.mem_cons]
          constructor
          · exact Or.inr
          · intro hk
            rcases hk with rfl | hk
            · exact List.mem_append_left _ hseen
            · exact hk
        rw [if_pos hseen, if_pos hseen, firstOfEach_congr hagain]
      · rw [if_neg hseen, if_neg hseen, List.cons_append]

/-- The keys that are kept are those that were not seen. -/
theorem mem_keys_firstOfEach {k : κ} :
    k ∈ (firstOfEach key seen as).map key ↔ k ∈ as.map key ∧ k ∉ seen := by
  induction as generalizing seen with
  | nil => simp [firstOfEach]
  | cons a rest ih =>
      rw [firstOfEach]
      by_cases hseen : key a ∈ seen
      · rw [if_pos hseen, ih, List.map_cons, List.mem_cons]
        constructor
        · exact fun h => ⟨Or.inr h.1, h.2⟩
        · intro hboth
          obtain ⟨hk, hnew⟩ := hboth
          have hne : k ≠ key a := fun heq => hnew (heq ▸ hseen)
          exact ⟨hk.resolve_left hne, hnew⟩
      · rw [if_neg hseen, List.map_cons, List.mem_cons, ih, List.map_cons, List.mem_cons,
          List.mem_cons]
        by_cases heq : k = key a
        · simp [heq, hseen]
        · simp [heq]

/-- Each key is kept once. -/
theorem nodup_keys_firstOfEach (key : α → κ) (seen : List κ) (as : List α) :
    ((firstOfEach key seen as).map key).Nodup := by
  induction as generalizing seen with
  | nil => exact List.nodup_nil
  | cons a rest ih =>
      rw [firstOfEach]
      by_cases hseen : key a ∈ seen
      · rw [if_pos hseen]
        exact ih seen
      · rw [if_neg hseen, List.map_cons, List.nodup_cons]
        have hnew : key a ∉ (firstOfEach key (key a :: seen) rest).map key := by
          rw [mem_keys_firstOfEach]
          exact fun h => h.2 List.mem_cons_self
        exact ⟨hnew, ih _⟩

/-- Elements with keys apart are all kept where none of the keys was seen. -/
theorem firstOfEach_eq_self (hapart : (as.map key).Nodup) (hnew : ∀ a ∈ as, key a ∉ seen) :
    firstOfEach key seen as = as := by
  induction as generalizing seen with
  | nil => rfl
  | cons a rest ih =>
      rw [List.map_cons, List.nodup_cons] at hapart
      rw [List.forall_mem_cons] at hnew
      have hlater : ∀ b ∈ rest, key b ∉ key a :: seen := by
        intro b hb hmem
        rcases List.mem_cons.mp hmem with heq | hseen
        · exact hapart.1 (heq ▸ List.mem_map_of_mem hb)
        · exact hnew.2 b hb hseen
      rw [firstOfEach, if_neg hnew.1, ih hapart.2 hlater]

/-- Nothing is kept exactly when every key was seen. -/
theorem firstOfEach_eq_nil_iff : firstOfEach key seen as = [] ↔ ∀ a ∈ as, key a ∈ seen := by
  constructor
  · intro hnone a ha
    by_contra hnew
    have hkept : key a ∈ (firstOfEach key seen as).map key :=
      mem_keys_firstOfEach.mpr ⟨List.mem_map_of_mem ha, hnew⟩
    rw [hnone] at hkept
    exact List.not_mem_nil hkept
  · intro hall
    rw [List.eq_nil_iff_forall_not_mem]
    intro a ha
    have hkept : key a ∈ (firstOfEach key seen as).map key := List.mem_map_of_mem ha
    obtain ⟨hthere, hnew⟩ := mem_keys_firstOfEach.mp hkept
    obtain ⟨b, hb, heq⟩ := List.mem_map.mp hthere
    exact hnew (heq ▸ hall b hb)

/-- Elements that are rewritten and keep their keys are kept where they were. -/
theorem firstOfEach_map {f : α → α} (hf : ∀ a, key (f a) = key a) (seen : List κ)
    (as : List α) : firstOfEach key seen (as.map f) = (firstOfEach key seen as).map f := by
  induction as generalizing seen with
  | nil => rfl
  | cons a rest ih =>
      rw [List.map_cons, firstOfEach, firstOfEach, hf, ih, ih]
      by_cases hseen : key a ∈ seen
      · rw [if_pos hseen, if_pos hseen]
      · rw [if_neg hseen, if_neg hseen, List.map_cons]

end Docket
