import Docket.Actor
import Docket.Workflow.Basic

/-!
# Requests

A request is one case on the board: its topic and status, the lawyer to whom
it is assigned, and the moves open to it. The column in which it stands is
the one that the server declares, and otherwise the one guessed from its
status.
-/

namespace Docket

/-- A request as the server holds it. -/
structure Request where
  id : RequestId
  track : String
  topic : TopicCode
  status : StatusCode
  statusName? : Option String
  assignee? : Option ActorId
  offers : List Offer
  /-- The column that the server declares, if it does. -/
  column? : Option Column
  importantDate? : Option String
  updated? : Option String

/-- Who says in which column a request stands. -/
inductive ColumnSource where
  | server
  | guess
  deriving DecidableEq

/-- The column of a request, and who says so. -/
structure Standing where
  column : Column
  source : ColumnSource
  /-- The server declares another column than the status suggests. -/
  diverges : Bool

namespace Request

/-- Where a request stands on the board. -/
def standing (r : Request) : Standing :=
  let guess := Column.guess r.status.text
  match r.column? with
  | some column => ⟨column, .server, column ≠ guess⟩
  | none => ⟨guess, .guess, false⟩

/-- The column in which a request stands. -/
def column (r : Request) : Column :=
  r.standing.column

/-- Nobody is assigned; a blank assignee is nobody. -/
def isUnassigned (r : Request) : Bool :=
  (r.assignee?.map Ident.isBlank).getD true

/-- The request is assigned to this person. -/
def isAssignedTo (r : Request) (person : ActorId) : Bool :=
  match r.assignee? with
  | some assignee => !assignee.isBlank && assignee == person
  | none => false

/-- What a request is called on the screen: its track number, or its id when
that is blank. -/
def label (r : Request) : String :=
  if Text.isBlank r.track then r.id.text else r.track

end Request

end Docket
