/-!
# Liveness

What a probe learns about a request: how far its activity has come, and who
is typing in it.
-/

namespace Docket

/-- Somebody else who is typing. -/
structure Peer where
  label : String
  role? : Option String
  deriving DecidableEq

/-- The answer to a probe. -/
structure Liveness where
  cursor? : Option String
  typing : List Peer

/-- The answer that tells nothing. -/
def Liveness.silent : Liveness :=
  ⟨none, []⟩

end Docket
