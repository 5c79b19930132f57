import Docket.Proofs.Sheet.Identities

/-!
# Rows that are merged

A sheet is filled from several sources, and the same field comes from more
than one of them, or from one of them twice. Of the rows that come, a merge
takes those that stand for a field which is neither on the sheet nor among the
rows that came before them, and puts them behind those that are there.

How the rows are dealt out to several merges makes no difference, nor does it
to merge the same rows again; and in whatever order they are merged, they ask
for the same fields.

* `Row.fresh_eq_arrivals` — the rows that are taken, found by their places.
* `Row.merge_eq_self_iff` — when nothing is taken.
* `Row.merge_merge` — two merges in turn.
* `Row.merge_takes_arrivals` — what merges do, one after another.
-/

namespace Docket.Row

/-- The row which stands at a place of the incoming ones has an identity that is
neither in the base nor further in front. -/
def arrives (base incoming : List Row) : Row × Nat → Bool
  | (row, place) => row.identity ∉ (base ++ incoming.take place).map identity

/-- The incoming rows, in their order, whose identity is neither in the base nor
further in front among themselves. -/
def arrivals (base incoming : List Row) : List Row :=
  (incoming.zipIdx.filter (arrives base incoming)).map Prod.fst

/-- One row more arrives unless its identity is in the base or in front of it. -/
theorem arrivals_concat (base rows : List Row) (row : Row) :
    arrivals base (rows ++ [row]) = arrivals base rows ++
      if row.identity ∈ base.map identity ++ rows.map identity then [] else [row] := by
  have hfront : rows.zipIdx.filter (arrives base (rows ++ [row])) =
      rows.zipIdx.filter (arrives base rows) := by
    -- no place among the rows has the last one in front of it
    refine List.filter_congr fun (r, place) hplace => ?_
    have hle : place ≤ rows.length := by
      have hbound := (List.mem_zipIdx hplace).2.1
      omega
    rw [arrives, arrives, List.take_append_of_le_length hle]
  have hlast : arrives base (rows ++ [row]) (row, rows.length) = true ↔
      row.identity ∉ base.map identity ++ rows.map identity := by
    rw [arrives, decide_eq_true_iff, List.take_left, List.map_append]
  rw [arrivals, arrivals, List.zipIdx_append, List.zipIdx_singleton, Nat.zero_add,
    List.filter_append, hfront, List.map_append]
  by_cases hseen : row.identity ∈ base.map identity ++ rows.map identity
  · have hstays := mt hlast.mp (not_not_intro hseen)
    rw [if_pos hseen, List.filter_cons_of_neg hstays]
    rfl
  · rw [if_neg hseen, List.filter_cons_of_pos (hlast.mpr hseen)]
    rfl

/-- The new ones of some rows are those that arrive. -/
theorem fresh_eq_arrivals (base incoming : List Row) :
    fresh (base.map identity) incoming = arrivals base incoming := by
  induction incoming using List.reverseRecOn with
  | nil => rfl
  | append_singleton rows row ih =>
      rw [fresh_eq_firstOfEach] at ih ⊢
      rw [firstOfEach_append, arrivals_concat, ih]
      rfl

/-- A merge changes nothing exactly when it brings nothing new. -/
theorem merge_eq_self_iff {base incoming : List Row} :
    merge base incoming = base ↔ ∀ row ∈ incoming, row.identity ∈ base.map identity := by
  rw [merge, List.append_right_eq_self, fresh_eq_firstOfEach, firstOfEach_eq_nil_iff]

/-- Two merges in turn are one merge of all that comes. -/
theorem merge_merge (base first second : List Row) :
    merge (merge base first) second = merge base (first ++ second) := by
  have hseen : ∀ key, key ∈ (merge base first).map identity ↔
      key ∈ base.map identity ++ first.map identity := by
    intro key
    rw [mem_identities_merge, List.mem_append]
  have hsecond : fresh ((merge base first).map identity) second =
      firstOfEach identity (base.map identity ++ first.map identity) second := by
    rw [fresh_eq_firstOfEach, firstOfEach_congr hseen]
  have hboth : fresh (base.map identity) (first ++ second) =
      fresh (base.map identity) first ++ fresh ((merge base first).map identity) second := by
    rw [hsecond, fresh_eq_firstOfEach, fresh_eq_firstOfEach, firstOfEach_append]
  calc merge (merge base first) second
      = base ++ fresh (base.map identity) first ++
          fresh ((merge base first).map identity) second := rfl
    _ = base ++ fresh (base.map identity) (first ++ second) := by rw [List.append_assoc, hboth]
    _ = merge base (first ++ second) := rfl

/-- **A merge takes the first arrivals.** The base stays as it is, and behind it
come the rows of the incoming ones, in their order, whose identity is neither in
the base nor further in front among the incoming. Two merges in turn are one
merge of all that comes, so merging the same rows again changes nothing; and a
merge changes nothing exactly when every identity that comes was there. In
whichever order two lots are merged, the same identities are there in the
end. -/
theorem merge_takes_arrivals (base xs ys : List Row) :
    merge base xs = base ++ arrivals base xs ∧
    merge (merge base xs) ys = merge base (xs ++ ys) ∧
    merge (merge base xs) xs = merge base xs ∧
    (merge base xs = base ↔ ∀ row ∈ xs, row.identity ∈ base.map identity) ∧
    ∀ key, key ∈ (merge (merge base xs) ys).map identity ↔
      key ∈ (merge (merge base ys) xs).map identity := by
  refine ⟨?_, merge_merge base xs ys, ?_, merge_eq_self_iff, ?_⟩
  · rw [merge, fresh_eq_arrivals]
  · rw [merge_eq_self_iff]
    intro row hrow
    exact mem_identities_merge.mpr (Or.inr (List.mem_map_of_mem hrow))
  · intro key
    rw [mem_identities_merge, mem_identities_merge, mem_identities_merge, mem_identities_merge,
      or_assoc, or_assoc, or_comm (a := key ∈ xs.map identity)]

end Docket.Row
