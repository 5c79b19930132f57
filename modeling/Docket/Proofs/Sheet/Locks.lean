import Docket.Proofs.Sheet.Edits

/-!
# Locked rows stay

Two parties work on one sheet. A row that the other party has filled is locked
for the viewer: whatever he does with the sheet, it stays in it, unchanged and
in its place among the locked rows. Other rows come and go, but they come as
they were asked for and go as they were, one at a time, to the viewer who
removed them. And nothing comes or goes by an edit that fails, even on a sheet
that is edited in place.

* `Sheet.step` — what one edit does.
* `locked_rows_stay` — what any edits leave of the locked rows, and what each
  of them does.
-/

namespace Docket
namespace Sheet

variable {s t : Sheet}

/-- The rows that are locked for a side, in their order. -/
def lockedFor (s : Sheet) (viewer : Side) : List Row :=
  s.rows.filter fun row => row.isLockedFor viewer

/-- Without a row that is not locked the locked ones are the same. -/
theorem lockedFor_eraseIdx {viewer : Side} {index : Nat} {row : Row}
    (hplace : s.rows[index]? = some row) (hfree : row.isLockedFor viewer = false) :
    lockedFor { s with rows := s.rows.eraseIdx index } viewer = s.lockedFor viewer :=
  filter_eraseIdx (p := fun r : Row => r.isLockedFor viewer) hplace hfree

/-- With a row more that is not locked they are the same, too. -/
theorem lockedFor_insertIdx {viewer : Side} {row : Row}
    (hfree : row.isLockedFor viewer = false) (index : Nat) :
    lockedFor { s with rows := s.rows.insertIdx index row } viewer = s.lockedFor viewer :=
  filter_insertIdx (p := fun r : Row => r.isLockedFor viewer) hfree s.rows index

/-- What one edit of a viewer does. -/
structure Step (s : Sheet) (e : Edit) : Prop where
  /-- Every row that was there or is added is there afterwards or was taken
  out, with all that it holds. -/
  balance : ∃ added, added.Sublist e.incoming ∧
    (s.rows ++ added).Perm ((s.edited e).rows ++ s.taken e)
  /-- What is taken out was not locked. -/
  free : ∀ row ∈ s.taken e, row.isLockedFor s.viewer = false
  /-- Locked rows stay in front of new ones. -/
  locked : s.lockedFor s.viewer <+: (s.edited e).lockedFor s.viewer
  viewer : (s.edited e).viewer = s.viewer
  /-- An edit that fails leaves the sheet as it was. -/
  failed : ∀ failure, s.perform e = .error failure → s.edited e = s

namespace Step

/-- Rows that are merged are added at the end. -/
theorem of_merge {e : Edit} {answer : Edit.Answer} {incoming : List Row}
    (hincoming : incoming.Sublist e.incoming)
    (hperform : s.perform e = .ok (answer, s.merge incoming)) (htaken : s.taken e = []) :
    Step s e := by
  have hedited : s.edited e = s.merge incoming := edited_of_ok hperform
  refine ⟨⟨Row.fresh (s.rows.map Row.identity) incoming, ?_, ?_⟩, ?_, ?_, ?_,
    fun _ => edited_of_error⟩
  · exact (Row.fresh_sublist _ incoming).trans hincoming
  · rw [hedited, htaken, List.append_nil]
    exact .rfl
  · rw [htaken]
    exact fun _ h => absurd h List.not_mem_nil
  · rw [hedited]
    show s.rows.filter _ <+: (s.rows ++ _).filter _
    rw [List.filter_append]
    exact List.prefix_append _ _
  · rw [hedited]
    rfl

/-- An edit that fails does nothing. -/
theorem of_failure {e : Edit} {failure : Failure} (hperform : s.perform e = .error failure) :
    Step s e := by
  have hedited : s.edited e = s := edited_of_error hperform
  have htaken : s.taken e = [] := by
    unfold taken
    rw [hperform]
    split
    · contradiction
    · rfl
  refine ⟨⟨[], List.nil_sublist _, ?_⟩, ?_, ?_, ?_, fun _ => edited_of_error⟩
  · rw [hedited, htaken]
  · rw [htaken]
    exact fun _ h => absurd h List.not_mem_nil
  · exact hedited.symm ▸ List.prefix_rfl
  · rw [hedited]

/-- A row that is moved is not locked, so the locked ones stay as they are. -/
theorem moveRow (s : Sheet) (source target : Nat) : Step s (.moveRow source target) := by
  cases hmove : s.moveRow source target with
  | error failure =>
      have hperform : s.perform (.moveRow source target) = .error failure := by
        rw [perform, hmove]
        rfl
      exact of_failure hperform
  | ok t =>
      obtain ⟨row, hplace, hfree, htarget, rfl⟩ := moveRow_eq_ok_iff.mp hmove
      have hperform : s.perform (.moveRow source target) =
          .ok (.done, { s with rows := (s.rows.eraseIdx source).insertIdx target row }) := by
        rw [perform, hmove]
        rfl
      have hedited : s.edited (.moveRow source target) =
          { s with rows := (s.rows.eraseIdx source).insertIdx target row } :=
        edited_of_ok hperform
      refine ⟨⟨[], List.nil_sublist _, ?_⟩, ?_, ?_, ?_, fun _ => edited_of_error⟩
      · rw [hedited]
        have hroom := le_length_eraseIdx source htarget
        have hperm : ((s.rows.eraseIdx source).insertIdx target row).Perm s.rows :=
          (List.perm_insertIdx row _ hroom).trans (eraseIdx_perm hplace)
        simpa [taken] using hperm.symm
      · exact fun _ h => absurd h List.not_mem_nil
      · rw [hedited]
        exact ((lockedFor_insertIdx hfree target).trans (lockedFor_eraseIdx hplace hfree)) ▸
          List.prefix_rfl
      · rw [hedited]

/-- A row that is removed is not locked and is brought back. -/
theorem removeRow (s : Sheet) (index : Nat) : Step s (.removeRow index) := by
  cases hremove : s.removeRow index with
  | error failure =>
      have hperform : s.perform (.removeRow index) = .error failure := by
        rw [perform, hremove]
        rfl
      exact of_failure hperform
  | ok removed =>
      obtain ⟨row, t⟩ := removed
      obtain ⟨hplace, hfree, rfl⟩ := removeRow_eq_ok_iff.mp hremove
      have hperform : s.perform (.removeRow index) =
          .ok (.removed row, { s with rows := s.rows.eraseIdx index }) := by
        rw [perform, hremove]
        rfl
      have hedited : s.edited (.removeRow index) = { s with rows := s.rows.eraseIdx index } :=
        edited_of_ok hperform
      have htaken : s.taken (.removeRow index) = [row] := by
        unfold taken
        rw [hperform]
      refine ⟨⟨[], List.nil_sublist _, ?_⟩, ?_, ?_, ?_, fun _ => edited_of_error⟩
      · rw [hedited, htaken, List.append_nil]
        exact (eraseIdx_perm hplace).symm.trans (List.perm_append_singleton row _).symm
      · rw [htaken]
        intro other hother
        cases List.mem_singleton.mp hother
        exact hfree
      · rw [hedited]
        exact lockedFor_eraseIdx hplace hfree ▸ List.prefix_rfl
      · rw [hedited]

end Step

/-- **What one edit does.** -/
theorem step (s : Sheet) (e : Edit) : Step s e := by
  cases e with
  | merge incoming => exact .of_merge (.refl _) rfl rfl
  | addCatalog fields => exact .of_merge (.refl _) rfl rfl
  | applyTemplate t => exact .of_merge (.refl _) rfl rfl
  | addManual label kind document? =>
      cases hadd : s.addManual label kind document? with
      | error failure =>
          have hperform : s.perform (.addManual label kind document?) = .error failure := by
            rw [perform, hadd]
            rfl
          exact .of_failure hperform
      | ok added =>
          obtain ⟨isNew, t⟩ := added
          obtain ⟨row, hrow, rfl, -⟩ := addManual_eq_ok_iff.mp hadd
          have hincoming : [row].Sublist (Edit.addManual label kind document?).incoming := by
            rw [Edit.incoming, hrow]
            exact .refl _
          have hperform : s.perform (.addManual label kind document?) =
              .ok (.added isNew, s.merge [row]) := by
            rw [perform, hadd]
            rfl
          exact .of_merge hincoming hperform rfl
  | moveRow source target => exact .moveRow s source target
  | removeRow index => exact .removeRow s index

/-- Edits are made by one viewer. -/
theorem viewer_after (s : Sheet) (edits : List Edit) : (s.after edits).viewer = s.viewer := by
  induction edits generalizing s with
  | nil => rfl
  | cons e rest ih => exact (ih (s.edited e)).trans (s.step e).viewer

/-- Locked rows stay in front of new ones, whatever is done. -/
theorem lockedFor_after (s : Sheet) (edits : List Edit) :
    s.lockedFor s.viewer <+: (s.after edits).lockedFor s.viewer := by
  induction edits generalizing s with
  | nil => exact List.prefix_rfl
  | cons e rest ih =>
      have hrest := ih (s.edited e)
      rw [(s.step e).viewer] at hrest
      exact (s.step e).locked.trans hrest

/-- **Locked rows stay.** Whatever a viewer does with a sheet, the rows that
the other side had filled are all there in the end, unchanged, in their order,
and in front of any other row that is locked for him. And of every edit that
he may then make: no row is altered, since what was there or is newly added is
there afterwards or was taken out; what is taken out is the row that a removal
brings back, and was not locked; and an edit that fails leaves the sheet as it
was. All this is so on a sheet that is edited in place, too: each edit has an
outcome there and comes to the same, and none that fails has left the sheet in
the middle. -/
theorem locked_rows_stay (s : Sheet) (edits : List Edit) :
    (∀ row, row ∈ s.lockedFor s.viewer ↔
      row ∈ s.rows ∧ ∃ side, row.fill = .filled side ∧ side ≠ s.viewer) ∧
    s.lockedFor s.viewer <+: (s.after edits).lockedFor s.viewer ∧
    s.afterInPlace? edits = some (s.after edits) ∧
    ∀ e : Edit,
      (∃ added, added.Sublist e.incoming ∧ ((s.after edits).rows ++ added).Perm
        (((s.after edits).edited e).rows ++ (s.after edits).taken e)) ∧
      (∀ row ∈ (s.after edits).taken e, row.isLockedFor s.viewer = false) ∧
      (∀ failure, (s.after edits).perform e = .error failure →
        (s.after edits).edited e = s.after edits) ∧
      (s.after edits).performInPlace? e =
        some (((s.after edits).perform e).map Prod.fst, (s.after edits).edited e) ∧
      ∀ failure left, (s.after edits).performInPlace? e = some (.error failure, left) →
        left = s.after edits := by
  refine ⟨fun row => ?_, s.lockedFor_after edits, s.afterInPlace?_eq edits, fun e => ?_⟩
  · rw [lockedFor, List.mem_filter]
    refine and_congr_right fun _ => ?_
    unfold Row.isLockedFor
    cases row.fill with
    | pending => simp
    | filled side => simp
  · obtain ⟨hbalance, hfree, -, -, hfailed⟩ := (s.after edits).step e
    rw [s.viewer_after edits] at hfree
    exact ⟨hbalance, hfree, hfailed, performInPlace?_eq _ e, fun _ _ => eq_of_performInPlace?_error⟩

/-- A row that the client has filled and one that nobody has, as the staff sees
them. -/
def halfFilled : Sheet :=
  ⟨[{ Row.blank "Income" .number none with fill := .filled .client },
    Row.blank "Employer" .string none], .staff⟩

/-- The free row is moved to the front, from where it can be removed. The
locked one behind it cannot, and stays when it is tried in place. -/
theorem locked_rows_stay_behind_moved_row :
    (∃ row, (halfFilled.after [.moveRow 1 0]).taken (.removeRow 0) = [row] ∧
      row.isLockedFor .staff = false) ∧
    (∃ failure, (halfFilled.after [.moveRow 1 0]).perform (.removeRow 1) = .error failure ∧
      (halfFilled.after [.moveRow 1 0]).edited (.removeRow 1) =
        halfFilled.after [.moveRow 1 0] ∧
      ∃ left, (halfFilled.after [.moveRow 1 0]).performInPlace? (.removeRow 1) =
          some (.error failure, left) ∧
        left = halfFilled.after [.moveRow 1 0]) ∧
    (halfFilled.lockedFor .staff).length = 1 ∧
    halfFilled.lockedFor .staff <+: (halfFilled.after [.moveRow 1 0]).lockedFor .staff := by
  obtain ⟨-, hlocked, -, hedits⟩ := locked_rows_stay halfFilled [.moveRow 1 0]
  have htaken : (halfFilled.after [.moveRow 1 0]).taken (.removeRow 0) =
      [Row.blank "Employer" .string none] := rfl
  have hfailed : (halfFilled.after [.moveRow 1 0]).perform (.removeRow 1) =
      .error (.denied (.lockedRow "Income")) := rfl
  obtain ⟨-, -, hstays, hinPlace, hleft⟩ := hedits (.removeRow 1)
  rw [hfailed] at hinPlace
  refine ⟨⟨_, htaken, ?_⟩, ⟨_, hfailed, hstays _ hfailed, _, hinPlace, hleft _ _ hinPlace⟩,
    rfl, hlocked⟩
  refine (hedits (.removeRow 0)).2.1 _ ?_
  rw [htaken]
  exact List.mem_singleton_self _

end Sheet
end Docket
