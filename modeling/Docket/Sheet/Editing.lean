import Docket.Failure
import Docket.Sheet.Basic

/-!
# Editing a sheet

A sheet holds the rows of a request as one side sees them. Rows are merged by
identity and never overwritten. A row that the other side filled can be
neither moved nor removed. An operation that fails leaves the sheet as it
was.
-/

namespace Docket

/-- The rows of incoming ones that are new, given the identities that are
there already. -/
def Row.fresh (seen : List String) : List Row → List Row
  | [] => []
  | row :: rest =>
      if row.identity ∈ seen then fresh seen rest
      else row :: fresh (row.identity :: seen) rest

/-- Rows followed by the incoming ones whose identity is not yet there. -/
def Row.merge (base incoming : List Row) : List Row :=
  base ++ Row.fresh (base.map Row.identity) incoming

/-- The rows of a request as one side sees them. -/
structure Sheet where
  rows : List Row
  viewer : Side

namespace Sheet

/-- The row at an index is locked for the viewer; a row that is not there is
not. -/
def isLocked (s : Sheet) (index : Nat) : Bool :=
  (s.rows[index]?.map fun row => row.isLockedFor s.viewer).getD false

/-- Adds the rows that are not yet there. -/
def merge (s : Sheet) (incoming : List Row) : Sheet :=
  { s with rows := Row.merge s.rows incoming }

/-- Adds fields of the catalog. -/
def addCatalog (s : Sheet) (fields : List CatalogField) : Sheet :=
  s.merge (fields.map Row.ofCatalog)

/-- Adds the rows of a template. -/
def applyTemplate (s : Sheet) (t : Template) : Sheet :=
  s.merge t.rows

/-- The row that is entered by hand. It needs a label, and for a file the
name of the document. -/
def manualRow (label : String) (kind : FieldKind) (document? : Option String) : Outcome Row :=
  match Text.filled? label with
  | none => .error (.invalid .noLabel)
  | some label =>
      if kind = .file ∧ (document?.bind Text.filled?).isNone then
        .error (.invalid (.noDocument label))
      else .ok (Row.blank label kind document?)

/-- Adds a row by hand and says whether it was new. -/
def addManual (s : Sheet) (label : String) (kind : FieldKind) (document? : Option String) :
    Outcome (Bool × Sheet) :=
  (manualRow label kind document?).map fun row =>
    let t := s.merge [row]
    (s.rows.length < t.rows.length, t)

/-- The row at an index may be moved and removed by the viewer. -/
def checkEditable (s : Sheet) (index : Nat) : Outcome Unit :=
  match s.rows[index]? with
  | none => .error (.invalid (.rowOutOfRange index))
  | some row =>
      if row.isLockedFor s.viewer then .error (.denied (.lockedRow row.label)) else .ok ()

/-- Puts the row at `source` where `target` is. -/
def moveRow (s : Sheet) (source target : Nat) : Outcome Sheet :=
  match s.checkEditable source, s.rows[source]? with
  | .error failure, _ => .error failure
  | .ok (), none => .error (.invalid (.rowOutOfRange source))
  | .ok (), some row =>
      if s.rows.length ≤ target then .error (.invalid (.rowOutOfRange target))
      else .ok { s with rows := (s.rows.eraseIdx source).insertIdx target row }

/-- Takes the row at an index out of the sheet. -/
def removeRow (s : Sheet) (index : Nat) : Outcome (Row × Sheet) :=
  match s.checkEditable index, s.rows[index]? with
  | .error failure, _ => .error failure
  | .ok (), none => .error (.invalid (.rowOutOfRange index))
  | .ok (), some row => .ok (row, { s with rows := s.rows.eraseIdx index })

/-- The rows in their order as a template. -/
def toTemplate (s : Sheet) (id? : Option TemplateId) (name : String)
    (topic? : Option TopicCode) : Outcome Template :=
  match Text.filled? name with
  | none => .error (.invalid .noSheetName)
  | some name => .ok ⟨id?, name, topic?, s.rows.map Row.toItem⟩

/-- The values of the rows that carry one, each with its target. -/
def valueUpdates (s : Sheet) : List ValueUpdate :=
  s.rows.filterMap Row.update?

end Sheet

end Docket
