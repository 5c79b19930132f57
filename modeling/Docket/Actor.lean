import Docket.Ident
import Docket.Text.Ascii

/-!
# Who acts

A person acts as an administrator, a lawyer or a client, and speaks either
for the staff or for the client of a request.
-/

namespace Docket

/-- What a person may be. -/
inductive Role where
  | admin
  | lawyer
  | client
  deriving DecidableEq

/-- The two parties of a request. -/
inductive Side where
  | staff
  | client
  deriving DecidableEq

namespace Role

/-- The roles in the order in which they are listed. -/
def all : List Role :=
  [.admin, .lawyer, .client]

/-- The key that names a role. -/
def key : Role → String
  | .admin => "ADMIN"
  | .lawyer => "LAWYER"
  | .client => "CLIENT"

/-- The role that a key names, in any case and with white space around it. -/
def ofKey? (s : String) : Option Role :=
  let k := Text.asciiUpper (Text.trim s)
  all.find? fun role => role.key = k

/-- The party for which a role speaks. -/
def side : Role → Side
  | .admin | .lawyer => .staff
  | .client => .client

end Role

namespace Side

/-- The sides in the order in which they are listed. -/
def all : List Side :=
  [.staff, .client]

/-- The key that names a side. -/
def key : Side → String
  | .staff => "STAFF"
  | .client => "CLIENT"

end Side

/-- The person at the desk. -/
structure Actor where
  id : ActorId
  role : Role

/-- The actor is an administrator. -/
def Actor.isAdmin (actor : Actor) : Bool :=
  actor.role = .admin

end Docket
