import Docket.Destination

/-!
# The course of one move

A move begins with a target, is resolved against the request once that is
loaded, may wait for the user to pick, is applied, and ends. An operation
that does not fit the state leaves it as it is; only cancelling always ends
the move.
-/

namespace Docket

/-- What the user asked for. -/
inductive MoveTarget where
  | into (column : Column)
  | named (status : StatusCode)

/-- Where a move stands. -/
inductive MoveFlow where
  | idle
  /-- The request is being loaded. -/
  | resolving (request : RequestId) (target : MoveTarget)
  /-- The user has to pick one of these moves. -/
  | choosing (request : RequestId) (offers : List Offer)
  /-- The status is being changed. -/
  | applying (request : RequestId) (status : StatusCode)
  | failed (request : RequestId) (failure : Failure)

/-- Where a card goes that was asked to this target. -/
def MoveTarget.destination (target : MoveTarget) (r : Request) : Outcome Destination :=
  match target with
  | .into column => r.destination (some column) none
  | .named status => r.destination none (some status)

namespace MoveFlow

/-- Begins a move unless one is under way. -/
def begin (flow : MoveFlow) (request : RequestId) (target : MoveTarget) : MoveFlow :=
  match flow with
  | .idle | .failed _ _ => .resolving request target
  | busy => busy

/-- Resolves the target against the loaded request. -/
def resolve (flow : MoveFlow) (r : Request) : MoveFlow :=
  match flow with
  | .resolving request target =>
      if r.id ≠ request then .failed request (.invalid (.otherRequest r.id))
      else
        match target.destination r with
        | .ok .stay => .idle
        | .ok (.settled status) => .applying request status
        | .ok (.choice offers) => .choosing request offers
        | .error failure => .failed request failure
  | other => other

/-- Takes the user's pick; one that was not offered fails. -/
def choose (flow : MoveFlow) (status : StatusCode) : MoveFlow :=
  match flow with
  | .choosing request offers =>
      if offers.any fun o => o.target = status then .applying request status
      else .failed request (.invalid (.notOffered status))
  | other => other

/-- Ends the move with what became of it. -/
def finish (flow : MoveFlow) (outcome : Outcome Unit) : MoveFlow :=
  match flow, outcome with
  | .applying _ _, .ok () => .idle
  | .applying request _, .error failure => .failed request failure
  | other, _ => other

/-- Gives the move up. -/
def cancel (_flow : MoveFlow) : MoveFlow :=
  .idle

/-- The status that is being applied. -/
def pending? : MoveFlow → Option StatusCode
  | .applying _ status => some status
  | _ => none

/-- The moves among which the user has to pick. -/
def offers : MoveFlow → List Offer
  | .choosing _ offers => offers
  | _ => []

/-- Why the move failed. -/
def failure? : MoveFlow → Option Failure
  | .failed _ failure => some failure
  | _ => none

/-- No move is under way. -/
def isIdle : MoveFlow → Bool
  | .idle => true
  | _ => false

/-- A move of a loaded request, resolved; a status wins over a column. -/
def plan? (r : Request) (status? : Option StatusCode) (column? : Option Column) :
    Option MoveFlow :=
  match status?, column? with
  | some status, _ => some ((idle.begin r.id (.named status)).resolve r)
  | none, some column => some ((idle.begin r.id (.into column)).resolve r)
  | none, none => none

/-- Goes on with the user's pick, or gives up without one. -/
def settle (flow : MoveFlow) (picked? : Option StatusCode) : MoveFlow :=
  match picked? with
  | some status => flow.choose status
  | none => flow.cancel

end MoveFlow

end Docket
