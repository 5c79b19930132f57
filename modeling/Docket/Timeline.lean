/-!
# Virtual time

Something that runs in time settles at an instant, which may take several
steps and no time, and then knows the next instant at which it has something
to do. Time moves from one such instant to the next.
-/

namespace Docket.Timeline

variable {τ : Type}

/-- Settles now and at every instant before the target at which there is
something to do. What is due at the target itself is left for later, since
whoever lets the time pass goes first there. -/
def advance (settle : Nat → τ → τ) (next? : τ → Option Nat) (target now : Nat) (s : τ) : τ :=
  let settled := settle now s
  match next? settled with
  | none => settled
  | some t => if now < t ∧ t < target then advance settle next? target t settled else settled
termination_by target - now

end Docket.Timeline
