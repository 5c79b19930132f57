import Docket.Presence.Poller.Run
import Docket.Presence.Typing.Run

/-!
# Scripted presence

Servers that play a part: one answers probes from a list and then tells
nothing, the other takes signals after a fixed time.
-/

namespace Docket

/-- Answers probes one after another, and tells nothing when there are no more
answers. -/
def Prober.script : Prober (List (Reply Liveness)) := fun replies _now _probe =>
  match replies with
  | reply :: rest => (reply, rest)
  | [] => (⟨0, .ok .silent⟩, [])

/-- Takes every signal after a time of its kind, with one outcome. -/
def Listener.steady (whileTyping whenDone : Nat) (outcome : Outcome Unit) : Listener Unit :=
  fun _ _now _request typing => (⟨if typing then whileTyping else whenDone, outcome⟩, ())

end Docket
