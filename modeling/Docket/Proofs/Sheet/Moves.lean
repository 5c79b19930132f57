import Docket.Proofs.Sheet.Edits

/-!
# Rows that are moved

A row is taken out of a sheet and put in again elsewhere. The rows between the
two places are shifted by one, towards the place that it has left. Without the
row that goes, the sheet is the same before and afterwards, so the way back is
a move like the way there.

* `place`, `place_lt_place_iff` — where each row stands after a move.
* `Moved` — one row has gone, and the others are as they were.
* `Moved.symm`, `Moved.eq_insertIdx` — a move goes both ways, and to one sheet only.
* `MayMove`, `MoveRefused` — which moves are made, and why others are not.
* `row_moves_there_and_back` — what a move does, and what is left of a sheet
  when it is refused.
-/

namespace Docket

/-- Where an element stands when the one at `hole` has gone. -/
def closeUp (hole index : Nat) : Nat :=
  if index < hole then index else index - 1

/-- Where an element stands when another has come to `gap`. -/
def makeRoom (gap index : Nat) : Nat :=
  if index < gap then index else index + 1

section Places

variable {hole gap i j : Nat}

theorem makeRoom_ne (gap i : Nat) : makeRoom gap i ≠ gap := by
  unfold makeRoom
  split <;> omega

theorem closeUp_makeRoom (gap i : Nat) : closeUp gap (makeRoom gap i) = i := by
  unfold makeRoom
  split
  case isTrue hfront => exact if_pos hfront
  case isFalse hback => exact if_neg (by omega)

theorem makeRoom_lt_makeRoom_iff : makeRoom gap i < makeRoom gap j ↔ i < j := by
  unfold makeRoom
  split <;> split <;> omega

/-- The hole apart, what closes up keeps its order. -/
theorem closeUp_lt_closeUp_iff (hi : i ≠ hole) (hj : j ≠ hole) :
    closeUp hole i < closeUp hole j ↔ i < j := by
  unfold closeUp
  split <;> split <;> omega

/-- What has closed up is found there. -/
theorem getElem?_eraseIdx_closeUp {α : Type} (l : List α) (hi : i ≠ hole) :
    (l.eraseIdx hole)[closeUp hole i]? = l[i]? := by
  rw [List.getElem?_eraseIdx]
  unfold closeUp
  by_cases hfront : i < hole
  · rw [if_pos hfront, if_pos hfront]
  · have hback : ¬ i - 1 < hole := by omega
    have hpos : 1 ≤ i := by omega
    rw [if_neg hfront, if_neg hback, Nat.sub_add_cancel hpos]

end Places

namespace Sheet

/-- Where a row stands when the one at `source` has gone to `target`. -/
def place (source target index : Nat) : Nat :=
  if index = source then target else makeRoom target (closeUp source index)

section Places

variable {source target i j : Nat}

theorem place_self (source target : Nat) : place source target source = target :=
  if_pos rfl

theorem place_of_ne (hi : i ≠ source) :
    place source target i = makeRoom target (closeUp source i) :=
  if_neg hi

/-- Two rows that do not go keep their order. -/
theorem place_lt_place_iff (hi : i ≠ source) (hj : j ≠ source) :
    place source target i < place source target j ↔ i < j := by
  rw [place_of_ne hi, place_of_ne hj, makeRoom_lt_makeRoom_iff, closeUp_lt_closeUp_iff hi hj]

end Places

/-- One row has gone from `source` to `target`, and nothing else has happened. -/
structure Moved (source target : Nat) (before after : List Row) : Prop where
  /-- The row that stood at `source` stands at `target`. -/
  arrived : ∃ row, before[source]? = some row ∧ after[target]? = some row
  /-- Apart from it the same rows stand in the same order. -/
  others : after.eraseIdx target = before.eraseIdx source

namespace Moved

variable {source target : Nat} {before after : List Row} {row : Row}

/-- The way back is a move, too. -/
theorem symm (h : Moved source target before after) : Moved target source after before := by
  obtain ⟨row, hbefore, hafter⟩ := h.arrived
  exact ⟨⟨row, hafter, hbefore⟩, h.others.symm⟩

/-- No row is lost, and none is there more often than before. -/
theorem perm (h : Moved source target before after) : after.Perm before := by
  obtain ⟨row, hbefore, hafter⟩ := h.arrived
  have hthere := eraseIdx_perm hbefore
  rw [← h.others] at hthere
  exact (eraseIdx_perm hafter).symm.trans hthere

/-- Every row is found at its place. -/
theorem getElem?_place (h : Moved source target before after) (i : Nat) :
    after[place source target i]? = before[i]? := by
  by_cases hi : i = source
  · obtain ⟨row, hbefore, hafter⟩ := h.arrived
    rw [hi, place_self, hbefore, hafter]
  · -- the row is looked for among the others, where before and afterwards are one
    rw [place_of_ne hi]
    calc after[makeRoom target (closeUp source i)]?
        = (after.eraseIdx target)[closeUp target (makeRoom target (closeUp source i))]? :=
          (getElem?_eraseIdx_closeUp after (makeRoom_ne _ _)).symm
      _ = (before.eraseIdx source)[closeUp source i]? := by rw [h.others, closeUp_makeRoom]
      _ = before[i]? := getElem?_eraseIdx_closeUp before hi

/-- A move leads to one sheet only. -/
theorem eq_insertIdx (h : Moved source target before after) (hrow : before[source]? = some row) :
    after = (before.eraseIdx source).insertIdx target row := by
  obtain ⟨found, hbefore, hafter⟩ := h.arrived
  cases hrow.symm.trans hbefore
  obtain ⟨hlt, rfl⟩ := List.getElem?_eq_some_iff.mp hafter
  rw [← h.others, List.insertIdx_eraseIdx_getElem hlt]

/-- A row that is taken out and put in again has gone. -/
theorem of_insertIdx (hrow : before[source]? = some row) (htarget : target < before.length) :
    Moved source target before ((before.eraseIdx source).insertIdx target row) := by
  have hroom := le_length_eraseIdx source htarget
  refine ⟨⟨row, hrow, ?_⟩, List.eraseIdx_insertIdx_self row⟩
  rw [List.getElem?_insertIdx_self, if_pos hroom]

end Moved

variable {s t : Sheet} {source target index : Nat} {failure : Failure}

/-- A row is locked when the other side has filled it. -/
theorem isLocked_eq_true_iff :
    s.isLocked index = true ↔
      ∃ row side, s.rows[index]? = some row ∧ row.fill = .filled side ∧ side ≠ s.viewer := by
  unfold isLocked Row.isLockedFor
  cases s.rows[index]? with
  | none => simp
  | some row => cases hfill : row.fill <;> simp [hfill]

theorem isLocked_of_getElem? {row : Row} (hrow : s.rows[index]? = some row) :
    s.isLocked index = row.isLockedFor s.viewer := by
  rw [isLocked, hrow]
  rfl

/-- A row is free when it is there and not locked. -/
theorem exists_free_iff :
    (∃ row, s.rows[index]? = some row ∧ row.isLockedFor s.viewer = false) ↔
      index < s.rows.length ∧ s.isLocked index = false := by
  constructor
  · intro ⟨row, hrow, hfree⟩
    exact ⟨(List.getElem?_eq_some_iff.mp hrow).1, (isLocked_of_getElem? hrow).trans hfree⟩
  · intro ⟨hindex, hfree⟩
    have hrow := List.getElem?_eq_getElem hindex
    exact ⟨_, hrow, (isLocked_of_getElem? hrow).symm.trans hfree⟩

/-- Both places are there, and the row is not locked for the viewer. -/
structure MayMove (s : Sheet) (source target : Nat) : Prop where
  source_lt : source < s.rows.length
  target_lt : target < s.rows.length
  free : s.isLocked source = false

/-- Why a row may not be edited. -/
inductive RowRefused (s : Sheet) (index : Nat) : Failure → Prop where
  | missing (hmissing : s.rows.length ≤ index) :
      RowRefused s index (.invalid (.rowOutOfRange index))
  | locked {row : Row} (hrow : s.rows[index]? = some row) (hlocked : s.isLocked index = true) :
      RowRefused s index (.denied (.lockedRow row.label))

/-- Why a row is not moved. What is wrong with the row is told before what is
wrong with the place. -/
inductive MoveRefused (s : Sheet) (source target : Nat) : Failure → Prop where
  | row {failure : Failure} (hrefused : s.RowRefused source failure) :
      MoveRefused s source target failure
  | place (hsource : source < s.rows.length) (hfree : s.isLocked source = false)
      (htarget : s.rows.length ≤ target) :
      MoveRefused s source target (.invalid (.rowOutOfRange target))

theorem RowRefused.checkEditable_eq (h : s.RowRefused index failure) :
    s.checkEditable index = .error failure := by
  unfold checkEditable
  cases h with
  | missing hmissing => rw [List.getElem?_eq_none hmissing]
  | locked hrow hlocked =>
      rw [isLocked_of_getElem? hrow] at hlocked
      rw [hrow]
      exact if_pos hlocked

theorem checkEditable_eq_ok (hindex : index < s.rows.length) (hfree : s.isLocked index = false) :
    s.checkEditable index = .ok () :=
  checkEditable_eq_ok_iff.mpr (exists_free_iff.mpr ⟨hindex, hfree⟩)

/-- A row may be moved, or there is a reason why not. -/
theorem mayMove_or_refused (s : Sheet) (source target : Nat) :
    s.MayMove source target ∨ ∃ failure, s.MoveRefused source target failure := by
  rcases Nat.lt_or_ge source s.rows.length with hsource | hmissing
  · have hrow := List.getElem?_eq_getElem hsource
    cases hlocked : s.isLocked source with
    | true => exact .inr ⟨_, .row (.locked hrow hlocked)⟩
    | false =>
        rcases Nat.lt_or_ge target s.rows.length with htarget | houtside
        · exact .inl ⟨hsource, htarget, hlocked⟩
        · exact .inr ⟨_, .place hsource hlocked houtside⟩
  · exact .inr ⟨_, .row (.missing hmissing)⟩

/-- Exactly the rows that may be moved are moved. -/
theorem exists_moveRow_eq_ok_iff :
    (∃ t, s.moveRow source target = .ok t) ↔ s.MayMove source target := by
  constructor
  · intro ⟨t, hmove⟩
    obtain ⟨row, hrow, hfree, htarget, -⟩ := moveRow_eq_ok_iff.mp hmove
    obtain ⟨hsource, hunlocked⟩ := exists_free_iff.mp ⟨row, hrow, hfree⟩
    exact ⟨hsource, htarget, hunlocked⟩
  · intro ⟨hsource, htarget, hunlocked⟩
    obtain ⟨row, hrow, hfree⟩ := exists_free_iff.mpr ⟨hsource, hunlocked⟩
    exact ⟨_, moveRow_eq_ok_iff.mpr ⟨row, hrow, hfree, htarget, rfl⟩⟩

/-- A sheet after a move holds the same rows, of which one has gone. -/
theorem moved_of_moveRow (h : s.moveRow source target = .ok t) :
    Moved source target s.rows t.rows := by
  obtain ⟨row, hrow, -, htarget, rfl⟩ := moveRow_eq_ok_iff.mp h
  exact .of_insertIdx hrow htarget

/-- A row that was moved may be moved back, and then the sheet is what it was. -/
theorem moveRow_back (h : s.moveRow source target = .ok t) : t.moveRow target source = .ok s := by
  have hback := (moved_of_moveRow h).symm
  obtain ⟨row, hrow, hfree, htarget, rfl⟩ := moveRow_eq_ok_iff.mp h
  obtain ⟨found, harrived, hleft⟩ := hback.arrived
  cases hrow.symm.trans hleft
  have hsource : source < ((s.rows.eraseIdx source).insertIdx target row).length := by
    rw [hback.perm.symm.length_eq]
    exact (List.getElem?_eq_some_iff.mp hrow).1
  refine moveRow_eq_ok_iff.mpr ⟨row, harrived, hfree, hsource, ?_⟩
  rw [← hback.eq_insertIdx harrived]

/-- Both strokes of a move that is made fall inside the sheet. -/
theorem moveInPlace?_of_ok (h : s.moveRow source target = .ok t) :
    s.moveInPlace? source target = some (.ok (), t) := by
  rw [moveInPlace?_eq, h]
  rfl

/-- A move that is refused fails. -/
theorem MoveRefused.moveRow_eq (h : s.MoveRefused source target failure) :
    s.moveRow source target = .error failure := by
  unfold moveRow
  cases h with
  | row hrefused => rw [hrefused.checkEditable_eq]
  | place hsource hfree htarget =>
      rw [checkEditable_eq_ok hsource hfree, List.getElem?_eq_getElem hsource]
      exact if_pos htarget

/-- In place it fails before the first stroke, so the sheet is as it was. -/
theorem MoveRefused.moveInPlace?_eq (h : s.MoveRefused source target failure) :
    s.moveInPlace? source target = some (.error failure, s) := by
  rw [Sheet.moveInPlace?_eq, h.moveRow_eq]
  rfl

/-- **A row moves there and back.** A row is moved exactly when both places are
in the sheet and the other side has not filled it. Then it stands where it was
to go, the others keep their order, and no row is lost or added: each is found
at its place. The move back is made, too, and restores the sheet. Any other
move is refused for a reason. Done in place, a move always has an outcome: both
strokes fall inside the sheet, or it is refused before the first one and the
sheet is as it was. -/
theorem row_moves_there_and_back (s : Sheet) (source target : Nat) :
    ((∃ t, s.moveRow source target = .ok t) ↔ s.MayMove source target) ∧
    (s.isLocked source = true ↔
      ∃ row side, s.rows[source]? = some row ∧ row.fill = .filled side ∧ side ≠ s.viewer) ∧
    (∀ t, s.moveRow source target = .ok t →
      Moved source target s.rows t.rows ∧ t.rows.Perm s.rows ∧
      (∀ i, t.rows[place source target i]? = s.rows[i]?) ∧
      (∀ i j, i ≠ source → j ≠ source →
        (place source target i < place source target j ↔ i < j)) ∧
      t.viewer = s.viewer ∧ t.moveRow target source = .ok s ∧
      s.moveInPlace? source target = some (.ok (), t)) ∧
    (¬ s.MayMove source target →
      ∃ failure, s.MoveRefused source target failure ∧
        s.moveRow source target = .error failure ∧
        s.moveInPlace? source target = some (.error failure, s)) := by
  refine ⟨exists_moveRow_eq_ok_iff, isLocked_eq_true_iff, ?made, ?refused⟩
  case made =>
    intro t hmove
    have hmoved := moved_of_moveRow hmove
    have hviewer : t.viewer = s.viewer := by
      obtain ⟨row, -, -, -, rfl⟩ := moveRow_eq_ok_iff.mp hmove
      rfl
    exact ⟨hmoved, hmoved.perm, hmoved.getElem?_place, fun _ _ => place_lt_place_iff, hviewer,
      moveRow_back hmove, moveInPlace?_of_ok hmove⟩
  case refused =>
    intro hnot
    obtain ⟨failure, hrefused⟩ := (s.mayMove_or_refused source target).resolve_left hnot
    exact ⟨failure, hrefused, hrefused.moveRow_eq, hrefused.moveInPlace?_eq⟩

/-- Four rows as the staff sees them. The client has filled the second and the
staff the third. -/
def household : Sheet :=
  ⟨[Row.blank "Address" .text none,
    { Row.blank "Income" .number none with fill := .filled .client },
    { Row.blank "Spouse" .string none with fill := .filled .staff },
    Row.blank "Children" .number none], .staff⟩

/-- A row goes to the end, past one that is locked, and comes back. The locked
row does not go, nor does another one to right behind the last. -/
theorem household_moves_there_and_back :
    (∃ t, household.moveRow 0 3 = .ok t ∧
      t.rows.map Row.label = ["Income", "Spouse", "Children", "Address"] ∧
      Moved 0 3 household.rows t.rows ∧ t.rows[place 0 3 1]? = household.rows[1]? ∧
      place 0 3 1 = 0 ∧ (place 0 3 1 < place 0 3 2 ↔ 1 < 2) ∧
      t.moveRow 3 0 = .ok household) ∧
    (¬ household.MayMove 1 0 ∧ ∃ failure, household.MoveRefused 1 0 failure ∧
      household.moveRow 1 0 = .error failure) ∧
    (¬ household.MayMove 2 4 ∧ ∃ failure, household.MoveRefused 2 4 failure ∧
      household.moveInPlace? 2 4 = some (.error failure, household)) := by
  have hlocked : ¬ household.MayMove 1 0 := fun h => absurd h.free (by decide)
  have houtside : ¬ household.MayMove 2 4 := fun h => absurd h.target_lt (by decide)
  obtain ⟨t, hmove⟩ : ∃ t, household.moveRow 0 3 = .ok t := ⟨_, rfl⟩
  have hlabels : t.rows.map Row.label = ["Income", "Spouse", "Children", "Address"] := by
    cases hmove
    rfl
  obtain ⟨-, -, hmade, -⟩ := row_moves_there_and_back household 0 3
  obtain ⟨hmoved, -, hplaces, horder, -, hback, -⟩ := hmade t hmove
  obtain ⟨-, -, -, hstays⟩ := row_moves_there_and_back household 1 0
  obtain ⟨failure, hrefused, herror, -⟩ := hstays hlocked
  obtain ⟨-, -, -, hstays'⟩ := row_moves_there_and_back household 2 4
  obtain ⟨failure', hrefused', -, hinPlace⟩ := hstays' houtside
  exact ⟨⟨t, hmove, hlabels, hmoved, hplaces 1, rfl, horder 1 2 (by decide) (by decide), hback⟩,
    ⟨hlocked, failure, hrefused, herror⟩, houtside, failure', hrefused', hinPlace⟩

end Sheet
end Docket
