import Docket.Failure

/-!
# Replies

An outcome that takes its time.
-/

namespace Docket

/-- An outcome that arrives after a while. -/
structure Reply (α : Type) where
  /-- In nanoseconds. -/
  delay : Nat
  outcome : Outcome α

namespace Reply

variable {α : Type}

/-- The failure that the reply brings, if it does. -/
def failure? (r : Reply α) : Option Failure :=
  match r.outcome with
  | .error failure => some failure
  | .ok _ => none

/-- The reply fails at the very instant of the question. -/
def failsAtOnce (r : Reply α) : Bool :=
  r.delay = 0 ∧ r.failure?.isSome

end Reply

end Docket
