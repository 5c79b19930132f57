import Docket.Ident
import Docket.Presence.Typing
import Docket.Reply
import Docket.Timeline

/-!
# A signaler in time

A signaler together with the signal that is on its way, the server, and a
record of all signals. Whether a signal succeeds does not matter; how long it
takes does, up to one heartbeat.

Time passes in ideal instants: it stops at every instant for which the signaler
waits, exactly, and none is the last. Timers that round up to milliseconds and
the overflow of a clock are left aside.
-/

namespace Docket

/-- A signal that was sent. -/
structure SentSignal where
  time : Nat
  request : RequestId
  typing : Bool

/-- Who takes signals, and remembers what he will. -/
abbrev Listener (σ : Type) :=
  σ → (now : Nat) → RequestId → (typing : Bool) → Reply Unit × σ

/-- A signaler at work. -/
structure Signaling (σ : Type) where
  request : RequestId
  signaler : Signaler
  /-- When the signal that is on its way is over. -/
  over? : Option Nat
  server : σ
  signals : List SentSignal

namespace Signaling

variable {σ : Type}

/-- A signaler for a request. -/
def new (request : RequestId) (heartbeat : Nat) (server : σ) : Signaling σ :=
  ⟨request, .new heartbeat, none, server, []⟩

/-- Changes the composer. -/
def modify (w : Signaling σ) (f : Composer → Composer) : Signaling σ :=
  { w with signaler := w.signaler.modify f }

/-- Says that the composer will not change any more. -/
def close (w : Signaling σ) : Signaling σ :=
  { w with signaler := w.signaler.close }

/-- Ends the signal that is on its way if its time is over. -/
def receive (w : Signaling σ) (now : Nat) : Signaling σ :=
  match w.over? with
  | some time => if time ≤ now then { w with signaler := w.signaler.sent, over? := none } else w
  | none => w

/-- Sends a signal to the server. -/
def launch (listen : Listener σ) (w : Signaling σ) (now : Nat) (typing : Bool) : Signaling σ :=
  let (reply, server) := listen w.server now w.request typing
  { w with
    server
    over? := some (now + min reply.delay w.signaler.heartbeat)
    signals := w.signals ++ [⟨now, w.request, typing⟩] }

/-- How often a signaler can act at one instant: for a change, a heartbeat and
its end, if all its signals are taken at once. -/
def rounds : Nat := 4

/-- Does what there is to do at an instant. -/
def settleIn (listen : Listener σ) (now : Nat) : Nat → Signaling σ → Signaling σ
  | 0, w => w
  | rounds + 1, w =>
      let w := w.receive now
      match w.signaler.turn now with
      | (signaler, none) => { w with signaler }
      | (signaler, some typing) =>
          settleIn listen now rounds ({ w with signaler }.launch listen now typing)

/-- Does what there is to do at an instant. -/
def settle (listen : Listener σ) (now : Nat) (w : Signaling σ) : Signaling σ :=
  settleIn listen now rounds w

/-- The next instant at which there is something to do. -/
def next? (w : Signaling σ) : Option Nat :=
  match w.over?, w.signaler.due? with
  | some time, _ => some time
  | none, due? => due?

/-- Lets time pass. -/
def advance (listen : Listener σ) (w : Signaling σ) (now span : Nat) : Signaling σ :=
  Timeline.advance (settle listen) next? (now + span) now w

/-- Runs to the end and says when that is. After the composer is closed there
are at most three signals more: one on its way, one for a change, and one
that says that nobody types. -/
def drain (listen : Listener σ) : (rounds now : Nat) → Signaling σ → Nat × Signaling σ
  | 0, now, w => (now, w)
  | rounds + 1, now, w =>
      let w := w.settle listen now
      match w.next? with
      | none => (now, w)
      | some time => drain listen rounds time w

/-- Closes the composer and lets the signaler come to its end. -/
def shutdown (listen : Listener σ) (w : Signaling σ) (now : Nat) : Nat × Signaling σ :=
  w.close.drain listen rounds now

end Signaling

end Docket
