import Docket.Presence.Liveness
import Docket.Wire.Record

/-!
# Liveness on the wire

The answer to a probe. Whatever it leaves out tells nothing.
-/

namespace Docket

open Wire

/-- Somebody else who is typing. -/
def Peer.codec : Codec Peer :=
  (Record.start Peer.mk
    |>.needs "actor_label" Peer.label .text
    |>.optional "role" Peer.role? .text).codec "TypingPeer"

/-- The answer to a probe. -/
def Liveness.codec : Codec Liveness :=
  (Record.start Liveness.mk
    |>.nullable "cursor" Liveness.cursor? .text
    |>.defaults "typing" Liveness.typing (.list Peer.codec) []).codec "LivenessResponse"

end Docket
