import Docket.Presence.Typing.Run
import Docket.Terminal.Keyboard

/-!
# Composing a message

A message is typed line by line until the input ends, while a signaler tells
the server. What is typed at one instant is one change. The last line typed
makes the composer busy, and the signaler comes to its end before the message
goes out.
-/

namespace Docket

/-- A draft with one more line. Nothing comes before the first line that is
not empty. -/
def addLine (draft line : String) : String :=
  if draft.isEmpty then line else draft ++ "\n" ++ line

namespace Signaling

variable {σ : Type}

/-- Lets time pass until an instant, unless that is here. What is typed at an
instant comes before what the signaler does then. -/
def passUntil (listen : Listener σ) (w : Signaling σ) (now time : Nat) : Signaling σ :=
  if now < time then w.advance listen now (time - now) else w

/-- What has been typed so far, and when. -/
structure Composing (σ : Type) where
  now : Nat
  signaling : Signaling σ
  /-- Nothing when a line was no text. -/
  draft? : Option String

/-- Takes what is typed, each at its instant. -/
def typeIn (listen : Listener σ) (now : Nat) (w : Signaling σ) (draft : String) :
    List Typed → Composing σ
  | [] => ⟨now, w, some draft⟩
  | typed :: rest =>
      let w := w.passUntil listen now typed.time
      let now := max now typed.time
      match typed.reading with
      | .line text =>
          let draft := addLine draft text
          typeIn listen now (w.modify fun c => { c with draft }) draft rest
      | .garbled => ⟨now, w, none⟩
      | .ended => ⟨now, w, some draft⟩

/-- Composes a message from what is typed, and comes to an end. -/
def compose (listen : Listener σ) (now : Nat) (request : RequestId) (heartbeat : Nat) (server : σ)
    (typed : List Typed) : Composing σ :=
  let w := (Signaling.new request heartbeat server).modify fun _ => ⟨true, false, ""⟩
  let typedIn := typeIn listen now w "" typed
  let w := typedIn.signaling.modify fun c => { c with busy := true }
  let (finish, w) := w.shutdown listen typedIn.now
  ⟨finish, w, typedIn.draft?⟩

end Signaling

end Docket
