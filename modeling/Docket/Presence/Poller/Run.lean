import Docket.Presence.Poller
import Docket.Reply
import Docket.Timeline

/-!
# A poller in time

A poller together with the answer that is on its way to it, the server that
it probes, and a log of what became of all probes. Stopping a session or
turning to another request drops the answer that is on its way.

Time passes in ideal instants: it stops at every instant for which the poller
waits, exactly, and none is the last. Timers that round up to milliseconds and
the overflow of a clock are left aside.
-/

namespace Docket

/-- A probe that was sent. -/
structure SentProbe where
  time : Nat
  probe : Probe

/-- Who answers probes, and remembers what he will. -/
abbrev Prober (σ : Type) :=
  σ → (now : Nat) → Probe → Reply Liveness × σ

/-- What happens to probes. -/
inductive Polling.Event where
  | sent (probe : SentProbe)
  | answered (time : Nat) (outcome : Outcome Liveness)
  | dropped

/-- A poller at work. -/
structure Polling (σ : Type) where
  poller : Poller
  /-- When the answer arrives, and what it is. -/
  arriving? : Option (Nat × Outcome Liveness)
  server : σ
  /-- From the first event to the last. -/
  log : List Polling.Event

namespace Polling

variable {σ : Type}

/-- A poller that has not begun. -/
def new (policy : Backoff) (server : σ) : Polling σ :=
  ⟨.new policy, none, server, []⟩

/-- The probe that an event sends, if it does. -/
def Event.sent? : Event → Option SentProbe
  | .sent probe => some probe
  | _ => none

/-- All probes that were sent, in order. -/
def probes (w : Polling σ) : List SentProbe :=
  w.log.filterMap Event.sent?

/-- Asks for an early probe. -/
def nudge (w : Polling σ) : Polling σ :=
  { w with poller := w.poller.nudge }

/-- Says whether somebody looks. -/
def setVisible (w : Polling σ) (visible : Bool) : Polling σ :=
  { w with poller := w.poller.setVisible visible }

/-- Drops the answer that is on its way. -/
def drop (w : Polling σ) : Polling σ :=
  if w.arriving?.isSome then { w with arriving? := none, log := w.log ++ [.dropped] } else w

/-- Stops watching. -/
def stop (w : Polling σ) : Polling σ :=
  { w.drop with poller := w.poller.stop }

/-- Watches a request. -/
def start (w : Polling σ) (now : Nat) (request : RequestId) (seed : Cursor) : Polling σ :=
  let kept := if w.poller.active? = some request then w else w.drop
  { kept with poller := w.poller.start now request seed }

/-- Takes the answer if it is there. -/
def receive (w : Polling σ) (now : Nat) : Polling σ :=
  match w.arriving? with
  | some (time, outcome) =>
      if time ≤ now then
        { w with
          poller := w.poller.answer now outcome
          arriving? := none
          log := w.log ++ [.answered now outcome] }
      else w
  | none => w

/-- Sends a probe to the server. -/
def launch (probe : Prober σ) (w : Polling σ) (now : Nat) (q : Probe) : Polling σ :=
  let (reply, server) := probe w.server now q
  { w with
    server
    arriving? := some (now + reply.delay, reply.outcome)
    log := w.log ++ [.sent ⟨now, q⟩] }

/-- How often a poller may act at one instant. With a schedule that leaves no
time between two failed probes that is as often as the server fails, so the
bound is one that no script of answers reaches. -/
def rounds : Nat := 1000000

/-- Does what there is to do at an instant. -/
def settleIn (probe : Prober σ) (now : Nat) : Nat → Polling σ → Polling σ
  | 0, w => w
  | rounds + 1, w =>
      let w := w.receive now
      match w.poller.turn now with
      | (poller, none) => { w with poller }
      | (poller, some q) => settleIn probe now rounds ({ w with poller }.launch probe now q)

/-- Does what there is to do at an instant. -/
def settle (probe : Prober σ) (now : Nat) (w : Polling σ) : Polling σ :=
  settleIn probe now rounds w

/-- The next instant at which there is something to do. -/
def next? (w : Polling σ) : Option Nat :=
  match w.arriving?, w.poller.due? with
  | some (time, _), some due => some (min time due)
  | some (time, _), none => some time
  | none, due? => due?

/-- Lets time pass. -/
def advance (probe : Prober σ) (w : Polling σ) (now span : Nat) : Polling σ :=
  Timeline.advance (settle probe) next? (now + span) now w

end Polling

end Docket
