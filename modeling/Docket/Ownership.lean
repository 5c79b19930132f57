import Docket.Failure

/-!
# Who may act on a request

Checks made before anything is asked of the server. Clients neither claim nor
move a request; a lawyer claims what belongs to nobody and moves what is
assigned to him; an administrator moves and reassigns anything.
-/

namespace Docket.Actor

/-- The actor may claim the request. -/
def mayClaim (actor : Actor) (r : Request) : Outcome Unit :=
  if actor.role = .client then .error (.denied .clientClaims)
  else if r.isUnassigned then .ok ()
  else .error (.denied (.alreadyAssigned r.id (r.assignee?.getD ⟨""⟩)))

/-- The actor may hand the request to this lawyer. -/
def mayReassign (actor : Actor) (r : Request) (lawyer : ActorId) : Outcome Unit :=
  if !actor.isAdmin then .error (.denied (.adminsReassign r.id))
  else if lawyer.isBlank then .error (.invalid .noLawyer)
  else .ok ()

/-- The actor may change the status of the request. -/
def mayMove (actor : Actor) (r : Request) : Outcome Unit :=
  match actor.role with
  | .admin => .ok ()
  | .client => .error (.denied .clientMoves)
  | .lawyer =>
      if r.isAssignedTo actor.id then .ok ()
      else if r.isUnassigned then .error (.denied (.claimFirst r.id))
      else .error (.denied (.otherLawyer r.id))

end Docket.Actor
