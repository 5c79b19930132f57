import Docket.Sheet.Editing

/-!
# Editing a sheet in place

On a sheet that is edited in place an edit goes stroke by stroke, and what one
stroke has done stays done, whatever becomes of the next. A row is moved in two
strokes. It is taken out, and the rows behind it close up; then it is put in,
and the rows from there on make room. There is nothing to take out behind the
last row, and nothing can be put in farther than right behind it: an edit with
such a stroke has no outcome. Rows are merged while none of them is on the
sheet, and put on it again when all of them have been looked at.
-/

namespace Docket

/-- Takes out the row at an index; none when no row is there. -/
def Row.takeOut? (rows : List Row) (index : Nat) : Option (Row × List Row) :=
  rows[index]?.map fun row => (row, rows.eraseIdx index)

/-- Puts a row in at an index, at most right behind the last one; none when the
index lies farther. -/
def Row.putIn? (rows : List Row) (index : Nat) (row : Row) : Option (List Row) :=
  if index ≤ rows.length then some (rows.insertIdx index row) else none

/-- Puts the incoming rows behind others, one by one, and skips those whose
identity was seen before. -/
def Row.putBehind (seen : List String) (rows : List Row) : List Row → List Row
  | [] => rows
  | row :: rest =>
      if row.identity ∈ seen then putBehind seen rows rest
      else putBehind (row.identity :: seen) (rows ++ [row]) rest

namespace Sheet

/-- Takes all rows from the sheet. -/
def takeAll (s : Sheet) : List Row × Sheet :=
  (s.rows, { s with rows := [] })

/-- Adds the rows that are not yet there in place. -/
def mergeInPlace (s : Sheet) (incoming : List Row) : Sheet :=
  let (base, bare) := s.takeAll
  { bare with rows := Row.putBehind (base.map Row.identity) base incoming }

/-- Adds a row by hand in place: whether the sheet has grown, and the sheet that
is left. -/
def addManualInPlace (s : Sheet) (label : String) (kind : FieldKind)
    (document? : Option String) : Outcome Bool × Sheet :=
  match manualRow label kind document? with
  | .error failure => (.error failure, s)
  | .ok row =>
      let t := s.mergeInPlace [row]
      (.ok (s.rows.length < t.rows.length), t)

/-- Moves a row in place: the answer, and the sheet that is left. -/
def moveInPlace? (s : Sheet) (source target : Nat) : Option (Outcome Unit × Sheet) :=
  match s.checkEditable source with
  | .error failure => some (.error failure, s)
  | .ok () =>
      if s.rows.length ≤ target then some (.error (.invalid (.rowOutOfRange target)), s)
      else do
        let (row, rest) ← Row.takeOut? s.rows source
        let rows ← Row.putIn? rest target row
        return (.ok (), { s with rows })

/-- Removes a row in place: the row, and the sheet that is left. -/
def removeInPlace? (s : Sheet) (index : Nat) : Option (Outcome Row × Sheet) :=
  match s.checkEditable index with
  | .error failure => some (.error failure, s)
  | .ok () => do
      let (row, rows) ← Row.takeOut? s.rows index
      return (.ok row, { s with rows })

end Sheet

end Docket
