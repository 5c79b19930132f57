import Docket.Column
import Docket.Ident

/-!
# The workflow of a topic

A topic has statuses and edges between them. An edge may carry a deadline in
hours, and may ask for filled data and attached files before it is taken. A
disabled edge stays on record and is never taken.
-/

namespace Docket

/-- A topic of requests. -/
structure Topic where
  code : TopicCode
  name : String

/-- A status that requests of a topic may have. -/
structure Status where
  code : StatusCode
  name : String
  /-- The column that the server declares, if it does. -/
  column? : Option Column
  /-- No request leaves the status. -/
  terminal : Bool
  position : Int32

/-- The column in which requests of the status show. -/
def Status.column (s : Status) : Column :=
  s.column?.getD (.guess s.code.text)

/-- A move from one status to another that a topic knows. -/
structure Edge where
  topic : TopicCode
  source : StatusCode
  target : StatusCode
  slaHours? : Option UInt32
  requiredKeys : List String
  requiredTypes : List String
  enabled : Bool
  position : Int32

/-- All that is on record about the workflow of a topic. -/
structure Workflow where
  topic : Topic
  statuses : List Status
  edges : List Edge

/-- A move that is open to a request from where it stands. -/
structure Offer where
  target : StatusCode
  name : String
  /-- The column that the server declares for the target, if it does. -/
  column? : Option Column
  deriving DecidableEq

/-- The column into which the move leads. -/
def Offer.column (o : Offer) : Column :=
  o.column?.getD (.guess o.target.text)

end Docket
