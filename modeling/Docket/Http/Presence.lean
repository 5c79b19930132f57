import Docket.Http.Client
import Docket.Presence.Poller.Run
import Docket.Presence.Typing.Run

/-!
# Presence over HTTP

The link to the server as the one that answers probes and takes signals.
-/

namespace Docket.Http.Link

variable {σ : Type}

/-- Makes the calls of an errand at an instant. -/
def launchAt (serve : Server σ) (link : Link σ) (now : Nat) (e : Errand) :
    Docket.Reply e.Answer × Link σ :=
  { link with now }.launch serve e.plan

/-- Answers probes over a link. -/
def prober (serve : Server σ) : Prober (Link σ) := fun link now q =>
  link.launchAt serve now (.probe q.request q.cursor?)

/-- Takes signals over a link. -/
def listener (serve : Server σ) : Listener (Link σ) := fun link now request typing =>
  link.launchAt serve now (.signalTyping request typing)

end Docket.Http.Link
