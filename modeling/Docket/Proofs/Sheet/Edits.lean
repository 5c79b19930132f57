import Docket.Proofs.FirstOfEach
import Docket.Sheet.InPlace
import Mathlib.Data.List.Perm.Basic

/-!
# Edits of a sheet

A viewer edits a sheet in six ways. An edit is made or fails, and a sheet that
is edited goes on as the one that the edit brings, or as it was. A sheet that
is edited in place could be left in the middle of an edit instead. It is not:
what could make an edit fail is looked at before the first stroke, and then no
stroke falls outside the sheet.

* `moveRow_eq_ok_iff`, `removeRow_eq_ok_iff` — which rows may be moved and
  removed, and what becomes of the sheet.
* `Sheet.edited`, `Sheet.after` — the sheet after an edit, and after several.
* `performInPlace?_eq` — an edit in place always has an outcome, says what the
  edit says, and leaves the sheet after it.
* `afterInPlace?_eq` — so do edits one after another.
-/

namespace Docket

/-- A filter does not see that an element it rejects has gone. -/
theorem filter_eraseIdx {α : Type} {p : α → Bool} {l : List α} {i : Nat} {a : α}
    (hplace : l[i]? = some a) (hp : p a = false) : (l.eraseIdx i).filter p = l.filter p := by
  induction l generalizing i with
  | nil => cases hplace
  | cons b rest ih =>
      cases i with
      | zero =>
          have hb : p b = false := by
            rw [List.getElem?_cons_zero] at hplace
            rwa [Option.some.inj hplace]
          rw [List.eraseIdx_cons_zero, List.filter_cons_of_neg (Bool.eq_false_iff.mp hb)]
      | succ i =>
          rw [List.getElem?_cons_succ] at hplace
          rw [List.eraseIdx_cons_succ, List.filter_cons, List.filter_cons, ih hplace]

/-- A filter does not see an element that it rejects come. -/
theorem filter_insertIdx {α : Type} {p : α → Bool} {a : α} (hp : p a = false) (l : List α)
    (i : Nat) : (l.insertIdx i a).filter p = l.filter p := by
  induction l generalizing i with
  | nil =>
      cases i with
      | zero => exact List.filter_cons_of_neg (Bool.eq_false_iff.mp hp)
      | succ i => rfl
  | cons b rest ih =>
      cases i with
      | zero =>
          rw [List.insertIdx_zero]
          exact List.filter_cons_of_neg (Bool.eq_false_iff.mp hp)
      | succ i => rw [List.insertIdx_succ_cons, List.filter_cons, List.filter_cons, ih]

/-- What is taken from one place is what is missing there. -/
theorem eraseIdx_perm {α : Type} {l : List α} {i : Nat} {a : α} (hplace : l[i]? = some a) :
    (a :: l.eraseIdx i).Perm l := by
  obtain ⟨hi, rfl⟩ := List.getElem?_eq_some_iff.mp hplace
  exact List.getElem_cons_eraseIdx_perm hi

/-- Without one element there is still room at every place that was there. -/
theorem le_length_eraseIdx {α : Type} {l : List α} (i : Nat) {j : Nat} (hj : j < l.length) :
    j ≤ (l.eraseIdx i).length := by
  rw [List.length_eraseIdx]
  split <;> omega

/-- The new ones of some rows are the first of each identity. -/
theorem Row.fresh_eq_firstOfEach (seen : List String) (rows : List Row) :
    Row.fresh seen rows = firstOfEach Row.identity seen rows := by
  induction rows generalizing seen with
  | nil => rfl
  | cons row rest ih => rw [Row.fresh, firstOfEach, ih, ih]

/-- The new ones of some rows are some of them, in their order. -/
theorem Row.fresh_sublist (seen : List String) (rows : List Row) :
    (Row.fresh seen rows).Sublist rows := by
  rw [Row.fresh_eq_firstOfEach]
  exact firstOfEach_sublist Row.identity seen rows

/-- Rows that are put behind others one by one are the new ones. -/
theorem Row.putBehind_eq (seen : List String) (rows incoming : List Row) :
    Row.putBehind seen rows incoming = rows ++ Row.fresh seen incoming := by
  induction incoming generalizing seen rows with
  | nil => exact (List.append_nil rows).symm
  | cons row rest ih =>
      unfold Row.putBehind Row.fresh
      split
      · exact ih seen rows
      · rw [ih, List.append_assoc, List.singleton_append]

namespace Sheet

variable {s t : Sheet}

theorem checkEditable_eq_ok_iff {index : Nat} :
    s.checkEditable index = .ok () ↔
      ∃ row, s.rows[index]? = some row ∧ row.isLockedFor s.viewer = false := by
  unfold checkEditable
  cases hplace : s.rows[index]? with
  | none => simp
  | some row => cases hlocked : row.isLockedFor s.viewer <;> simp [hlocked]

/-- A row that may not be edited is locked. -/
theorem not_free_of_checkEditable {index : Nat} {failure : Failure} {row : Row}
    (hcheck : s.checkEditable index = .error failure) (hplace : s.rows[index]? = some row) :
    ¬ row.isLockedFor s.viewer = false := by
  intro hfree
  have hok := checkEditable_eq_ok_iff.mpr ⟨row, hplace, hfree⟩
  rw [hcheck] at hok
  cases hok

/-- A row is moved within the sheet, and only if it is not locked. -/
theorem moveRow_eq_ok_iff {source target : Nat} :
    s.moveRow source target = .ok t ↔
      ∃ row, s.rows[source]? = some row ∧ row.isLockedFor s.viewer = false ∧
        target < s.rows.length ∧
        t = { s with rows := (s.rows.eraseIdx source).insertIdx target row } := by
  unfold moveRow
  cases hcheck : s.checkEditable source with
  | error failure =>
      constructor
      · intro h
        cases h
      · intro ⟨row, hplace, hfree, _⟩
        exact absurd hfree (not_free_of_checkEditable hcheck hplace)
  | ok u =>
      obtain ⟨row, hplace, hfree⟩ := checkEditable_eq_ok_iff.mp hcheck
      rw [hplace]
      dsimp only
      by_cases htarget : s.rows.length ≤ target
      · rw [if_pos htarget]
        constructor
        · intro h
          cases h
        · intro ⟨_, _, _, hlt, _⟩
          exact absurd hlt (Nat.not_lt.mpr htarget)
      · rw [if_neg htarget]
        constructor
        · intro h
          cases h
          exact ⟨row, rfl, hfree, Nat.lt_of_not_le htarget, rfl⟩
        · rintro ⟨row', hrow, -, -, rfl⟩
          cases hrow
          rfl

/-- The row at a place is removed, and only if it is not locked. -/
theorem removeRow_eq_ok_iff {index : Nat} {row : Row} :
    s.removeRow index = .ok (row, t) ↔
      s.rows[index]? = some row ∧ row.isLockedFor s.viewer = false ∧
        t = { s with rows := s.rows.eraseIdx index } := by
  unfold removeRow
  cases hcheck : s.checkEditable index with
  | error failure =>
      constructor
      · intro h
        cases h
      · intro ⟨hplace, hfree, _⟩
        exact absurd hfree (not_free_of_checkEditable hcheck hplace)
  | ok u =>
      obtain ⟨found, hplace, hfree⟩ := checkEditable_eq_ok_iff.mp hcheck
      rw [hplace]
      constructor
      · intro h
        cases h
        exact ⟨rfl, hfree, rfl⟩
      · rintro ⟨⟨⟩, -, rfl⟩
        rfl

/-- A row by hand that is refused is not added, and one that is not comes with
the rows that are merged. -/
theorem addManual_eq_ok_iff {label : String} {kind : FieldKind} {document? : Option String}
    {isNew : Bool} :
    s.addManual label kind document? = .ok (isNew, t) ↔
      ∃ row, manualRow label kind document? = .ok row ∧ t = s.merge [row] ∧
        isNew = decide (s.rows.length < t.rows.length) := by
  unfold addManual
  cases manualRow label kind document? with
  | error failure => simp [Except.map]
  | ok row =>
      simp only [Except.map, Except.ok.injEq, Prod.mk.injEq, exists_eq_left']
      constructor
      · rintro ⟨rfl, rfl⟩
        exact ⟨rfl, rfl⟩
      · rintro ⟨rfl, rfl⟩
        exact ⟨rfl, rfl⟩

/-- What may be done with a sheet. -/
inductive Edit where
  | merge (incoming : List Row)
  | addCatalog (fields : List CatalogField)
  | applyTemplate (t : Template)
  | addManual (label : String) (kind : FieldKind) (document? : Option String)
  | moveRow (source target : Nat)
  | removeRow (index : Nat)

/-- What an edit brings back. -/
inductive Edit.Answer where
  | done
  | added (isNew : Bool)
  | removed (row : Row)

/-- The rows that an edit asks to add. -/
def Edit.incoming : Edit → List Row
  | .merge incoming => incoming
  | .addCatalog fields => fields.map Row.ofCatalog
  | .applyTemplate t => t.rows
  | .addManual label kind document? => (manualRow label kind document?).toOption.toList
  | .moveRow _ _ | .removeRow _ => []

/-- Does an edit, if it may be done. -/
def perform (s : Sheet) : Edit → Outcome (Edit.Answer × Sheet)
  | .merge incoming => .ok (.done, s.merge incoming)
  | .addCatalog fields => .ok (.done, s.addCatalog fields)
  | .applyTemplate t => .ok (.done, s.applyTemplate t)
  | .addManual label kind document? =>
      (s.addManual label kind document?).map fun (isNew, t) => (.added isNew, t)
  | .moveRow source target => (s.moveRow source target).map fun t => (.done, t)
  | .removeRow index => (s.removeRow index).map fun (row, t) => (.removed row, t)

/-- The sheet after an edit that may have failed. -/
def edited (s : Sheet) (e : Edit) : Sheet :=
  match s.perform e with
  | .ok (_, t) => t
  | .error _ => s

/-- The rows that an edit has taken out: the one that a removal brings back. -/
def taken (s : Sheet) (e : Edit) : List Row :=
  match e, s.perform e with
  | .removeRow _, .ok (.removed row, _) => [row]
  | _, _ => []

/-- The sheet after some edits. -/
def after (s : Sheet) (edits : List Edit) : Sheet :=
  edits.foldl edited s

/-- What is left of a sheet and what is brought back when an edit comes to this:
one that fails leaves the sheet as it was. -/
def leaves {α : Type} (s : Sheet) : Outcome (α × Sheet) → Outcome α × Sheet
  | .ok (answer, t) => (.ok answer, t)
  | .error failure => (.error failure, s)

/-- Does an edit in place: what it brings back, and the sheet that is left. -/
def performInPlace? (s : Sheet) : Edit → Option (Outcome Edit.Answer × Sheet)
  | .merge incoming => some (.ok .done, s.mergeInPlace incoming)
  | .addCatalog fields => some (.ok .done, s.mergeInPlace (fields.map Row.ofCatalog))
  | .applyTemplate t => some (.ok .done, s.mergeInPlace t.rows)
  | .addManual label kind document? =>
      let (outcome, t) := s.addManualInPlace label kind document?
      some (outcome.map .added, t)
  | .moveRow source target =>
      (s.moveInPlace? source target).map fun (outcome, t) => (outcome.map fun _ => .done, t)
  | .removeRow index =>
      (s.removeInPlace? index).map fun (outcome, t) => (outcome.map .removed, t)

/-- The sheet after some edits in place; none when one of them has no outcome. -/
def afterInPlace? (s : Sheet) (edits : List Edit) : Option Sheet :=
  edits.foldlM (fun t e => (t.performInPlace? e).map Prod.snd) s

theorem edited_of_ok {e : Edit} {answer : Edit.Answer} (h : s.perform e = .ok (answer, t)) :
    s.edited e = t := by
  rw [edited, h]

theorem edited_of_error {e : Edit} {failure : Failure} (h : s.perform e = .error failure) :
    s.edited e = s := by
  rw [edited, h]

theorem leaves_perform (s : Sheet) (e : Edit) :
    s.leaves (s.perform e) = ((s.perform e).map Prod.fst, s.edited e) := by
  unfold edited
  cases s.perform e with
  | error failure => rfl
  | ok done => rfl

/-- Nothing is missing when the rows are back on the sheet. -/
theorem mergeInPlace_eq (s : Sheet) (incoming : List Row) :
    s.mergeInPlace incoming = s.merge incoming := by
  have hrows := Row.putBehind_eq (s.rows.map Row.identity) s.rows incoming
  exact congrArg (fun rows => { s with rows }) hrows

/-- A row by hand is refused before the rows are taken from the sheet. -/
theorem addManualInPlace_eq (s : Sheet) (label : String) (kind : FieldKind)
    (document? : Option String) :
    s.addManualInPlace label kind document? = s.leaves (s.addManual label kind document?) := by
  unfold addManualInPlace addManual
  cases manualRow label kind document? with
  | error failure => rfl
  | ok row =>
      dsimp only
      rw [mergeInPlace_eq]
      rfl

/-- A move is refused before the row is taken out, and a row that is taken out
is put in again. -/
theorem moveInPlace?_eq (s : Sheet) (source target : Nat) :
    s.moveInPlace? source target =
      some (s.leaves ((s.moveRow source target).map fun t => ((), t))) := by
  unfold moveInPlace? moveRow
  cases hcheck : s.checkEditable source with
  | error failure => rfl
  | ok u =>
      obtain ⟨row, hrow, -⟩ := checkEditable_eq_ok_iff.mp hcheck
      rw [hrow]
      by_cases htarget : s.rows.length ≤ target
      · simp only [if_pos htarget]
        rfl
      · have hout : Row.takeOut? s.rows source = some (row, s.rows.eraseIdx source) := by
          rw [Row.takeOut?, hrow]
          rfl
        have hin : Row.putIn? (s.rows.eraseIdx source) target row =
            some ((s.rows.eraseIdx source).insertIdx target row) :=
          if_pos (le_length_eraseIdx source (Nat.lt_of_not_le htarget))
        simp only [if_neg htarget, hout, hin, Option.bind_eq_bind, Option.bind_some]
        rfl

/-- A removal is refused before the row is taken out. -/
theorem removeInPlace?_eq (s : Sheet) (index : Nat) :
    s.removeInPlace? index = some (s.leaves (s.removeRow index)) := by
  unfold removeInPlace? removeRow
  cases hcheck : s.checkEditable index with
  | error failure => rfl
  | ok u =>
      obtain ⟨row, hrow, -⟩ := checkEditable_eq_ok_iff.mp hcheck
      rw [Row.takeOut?, hrow]
      rfl

/-- **An edit in place is the edit.** It has an outcome, brings back what the
edit brings back or fails as it does, and leaves the sheet after it. -/
theorem performInPlace?_eq (s : Sheet) (e : Edit) :
    s.performInPlace? e = some ((s.perform e).map Prod.fst, s.edited e) := by
  rw [← leaves_perform]
  cases e with
  | merge incoming =>
      rw [performInPlace?, mergeInPlace_eq]
      rfl
  | addCatalog fields =>
      rw [performInPlace?, mergeInPlace_eq]
      rfl
  | applyTemplate t =>
      rw [performInPlace?, mergeInPlace_eq]
      rfl
  | addManual label kind document? =>
      rw [performInPlace?, addManualInPlace_eq, perform]
      cases s.addManual label kind document? <;> rfl
  | moveRow source target =>
      rw [performInPlace?, moveInPlace?_eq, perform]
      cases s.moveRow source target <;> rfl
  | removeRow index =>
      rw [performInPlace?, removeInPlace?_eq, perform]
      cases s.removeRow index <;> rfl

/-- An edit in place that fails leaves the sheet as it was. -/
theorem eq_of_performInPlace?_error {e : Edit} {failure : Failure}
    (h : s.performInPlace? e = some (.error failure, t)) : t = s := by
  rw [performInPlace?_eq, ← leaves_perform] at h
  cases hperform : s.perform e with
  | error failure' =>
      rw [hperform] at h
      cases h
      rfl
  | ok done =>
      rw [hperform] at h
      cases h

/-- Edits in place never get stuck, and leave the sheet after them. -/
theorem afterInPlace?_eq (s : Sheet) (edits : List Edit) :
    s.afterInPlace? edits = some (s.after edits) := by
  induction edits generalizing s with
  | nil => rfl
  | cons e rest ih =>
      have hstep : s.afterInPlace? (e :: rest) =
          ((s.performInPlace? e).map Prod.snd).bind fun t => t.afterInPlace? rest :=
        List.foldlM_cons
      rw [hstep, performInPlace?_eq]
      exact ih (s.edited e)

end Sheet
end Docket
