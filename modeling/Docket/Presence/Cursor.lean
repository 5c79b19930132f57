import Docket.Stamp.Basic
import Docket.Workspace

/-!
# The activity cursor

A cursor marks the latest activity that has been seen. Blank values do not
count. Between two stamps the cursor only moves forward; any other value is
a token of the server and replaces a different one.
-/

namespace Docket

/-- The latest activity seen, if any. -/
structure Cursor where
  value? : Option String

namespace Cursor

/-- Nothing seen yet. -/
def start : Cursor :=
  ⟨none⟩

/-- A trimmed candidate moves the cursor. -/
def movesTo (cursor : Cursor) (candidate : String) : Bool :=
  match cursor.value? with
  | none => true
  | some current =>
      match Stamp.parse? candidate, Stamp.parse? current with
      | some a, some b => b.instant < a.instant
      | _, _ => candidate ≠ current

/-- The cursor after a candidate, and whether it moved. -/
def advance (cursor : Cursor) (candidate? : Option String) : Bool × Cursor :=
  match candidate?.bind Text.filled? with
  | none => (false, cursor)
  | some candidate =>
      if cursor.movesTo candidate then (true, ⟨some candidate⟩) else (false, cursor)

/-- The cursor after a number of candidates. -/
def advanceAll (cursor : Cursor) (candidates : List (Option String)) : Cursor :=
  candidates.foldl (fun c candidate? => (c.advance candidate?).2) cursor

/-- The cursor that has seen one value. -/
def seed (value? : Option String) : Cursor :=
  (start.advance value?).2

/-- The stamps of messages and attachments, in order. -/
def stampsOf (messages : List Message) (attachments : List Attachment) : List (Option String) :=
  (messages.flatMap fun m => [some m.created, m.updated?])
    ++ attachments.flatMap fun a => [some a.created, a.updated?]

/-- The cursor that has seen these messages and attachments. -/
def seededFrom (messages : List Message) (attachments : List Attachment) : Cursor :=
  start.advanceAll (stampsOf messages attachments)

end Cursor

end Docket
