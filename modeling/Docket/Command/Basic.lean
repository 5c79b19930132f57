import Docket.Board
import Docket.Sheet.Basic
import Docket.Workspace

/-!
# Commands

What the user may tell the desk on the command line.
-/

namespace Docket

/-- Where a card is to go, and what goes along with it. -/
structure MoveDetails where
  column? : Option Column
  status? : Option StatusCode
  comment? : Option String
  importantDate? : Option String
  /-- The paths of the files to attach. -/
  files : List String

/-- Nothing said yet. -/
def MoveDetails.none : MoveDetails :=
  ⟨.none, .none, .none, .none, []⟩

/-- One command of the user. -/
inductive Command where
  | board (limit? : Option UInt32) (order? : Option SortOrder)
  | move (request : RequestId) (details : MoveDetails)
  | claim (request : RequestId)
  | reassign (request : RequestId) (lawyer : ActorId)
  | watch (request : RequestId) (hidden : Bool)
  /-- Without a body the message is read from the keyboard. -/
  | send (request : RequestId) (body? : Option String)
  | templates (query : TemplateQuery)
  | template (id : TemplateId)
  | help

end Docket
