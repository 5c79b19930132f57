import Docket.Failure
import Docket.Presence.Backoff
import Docket.Presence.Cursor
import Docket.Presence.Liveness

/-!
# The poller

A poller watches one request at a time. In a session it probes the server,
publishes what it learnt, and waits; it never probes twice at once. A nudge
or a change to visible ends the wait after a good probe and nothing ends the
wait after a failed one. Of several things that would end a wait the timer
counts first, then a nudge, then a change of visibility.

A nudge goes to the session that waits, and is kept as a permit when none
does or the one that waits has been nudged already. There is one permit at
most. A nudge that was handed over is kept again if the wait ends otherwise.

The machine has no clock: whatever depends on time is told the instant. The
instant for which it waits is exact to the nanosecond and may lie as far ahead
as one likes. A timer that rounds up to whole milliseconds would wake it up to
one of them later, and a clock with a last instant could fail to set the wait.
-/

namespace Docket

/-- How the server has been answering. -/
inductive Health where
  | online
  | degraded
  deriving DecidableEq

/-- What a poller publishes. -/
structure Snapshot where
  request? : Option RequestId
  health : Health
  cursor? : Option String
  typing : List Peer
  /-- Failures since the last good probe. -/
  failures : Nat
  /-- How often the cursor has moved. -/
  generation : Nat
  inFlight : Bool
  deriving DecidableEq

/-- What is published when nothing is watched. -/
def Snapshot.empty : Snapshot :=
  ⟨none, .online, none, [], 0, 0, false⟩

/-- What is published when a session begins. -/
def Snapshot.opening (request : RequestId) (seed : Cursor) : Snapshot :=
  { empty with request? := some request, cursor? := seed.value? }

/-- One question to the server. -/
structure Probe where
  request : RequestId
  cursor? : Option String

namespace Poller

/-- What a session is doing. -/
inductive Phase where
  /-- About to look for something to do; a probe is due at an instant. -/
  | ready (due : Nat)
  /-- Waiting until a probe is due, perhaps with a nudge in hand. -/
  | parked (due : Nat) (nudged : Bool)
  /-- Waiting for the answer to a probe. -/
  | probing

/-- The watch over one request. -/
structure Session where
  request : RequestId
  cursor : Cursor
  failures : Nat
  /-- The visibility has changed since it was last looked at. -/
  unseen : Bool
  phase : Phase

end Poller

/-- A poller. -/
structure Poller where
  policy : Backoff
  visible : Bool
  /-- A nudge is kept for whoever waits next. -/
  permit : Bool
  snapshot : Snapshot
  session? : Option Poller.Session

namespace Poller

/-- A poller that has not watched anything. -/
def new (policy : Backoff) : Poller :=
  ⟨policy, true, false, .empty, none⟩

/-- The request that is watched. -/
def active? (p : Poller) : Option RequestId :=
  p.session?.map Session.request

/-- The session has a nudge in hand. -/
def Session.isNudged (s : Session) : Bool :=
  match s.phase with
  | .parked _ nudged => nudged
  | _ => false

/-- The session waits and has no nudge in hand. -/
def Session.awaitsNudge (s : Session) : Bool :=
  match s.phase with
  | .parked _ nudged => !nudged
  | _ => false

/-- The session with a nudge in hand, if it waits. -/
def Session.nudged (s : Session) : Session :=
  match s.phase with
  | .parked due _ => { s with phase := .parked due true }
  | _ => s

/-- Asks for an early probe. -/
def nudge (p : Poller) : Poller :=
  match p.session? with
  | some s =>
      if s.awaitsNudge then { p with session? := some s.nudged } else { p with permit := true }
  | none => { p with permit := true }

/-- Says whether somebody looks. -/
def setVisible (p : Poller) (visible : Bool) : Poller :=
  if p.visible = visible then p
  else { p with visible, session? := p.session?.map fun s => { s with unseen := true } }

/-- Takes the session away; a nudge that it had in hand is kept. -/
def detach (p : Poller) : Poller :=
  { p with permit := p.permit || p.session?.any Session.isNudged, session? := none }

/-- Publishes that nothing is watched. -/
def clear (p : Poller) : Poller :=
  { p with snapshot := .empty }

/-- Publishes a new session and begins it. -/
def attach (p : Poller) (now : Nat) (request : RequestId) (seed : Cursor) : Poller :=
  { p with
    snapshot := .opening request seed
    session? := some ⟨request, seed, 0, false, .ready now⟩ }

/-- Stops watching. -/
def stop (p : Poller) : Poller :=
  if p.session?.isNone then p else p.detach.clear

/-- Watches a request from what has been seen of it; it goes on as it is when
it is watched already. -/
def start (p : Poller) (now : Nat) (request : RequestId) (seed : Cursor) : Poller :=
  if p.active? = some request then p else p.stop.attach now request seed

/-- Waits until a probe is due. -/
def park (p : Poller) (s : Session) (due : Nat) : Poller × Option Probe :=
  ({ p with session? := some { s with phase := .parked due false } }, none)

/-- Sends a probe. -/
def probe (p : Poller) (s : Session) : Poller × Option Probe :=
  ({ p with
     snapshot := { p.snapshot with inFlight := true }
     session? := some { s with phase := .probing } },
   some ⟨s.request, s.cursor.value?⟩)

/-- Looks for something to do between two probes. -/
def look (p : Poller) (s : Session) (due : Nat) (nudged : Bool) (now : Nat) :
    Poller × Option Probe :=
  if due ≤ now then { p with permit := p.permit || nudged }.probe s
  else if 0 < s.failures then { p with permit := false }.park { s with unseen := false } due
  else if nudged then p.probe s
  else if p.permit then { p with permit := false }.probe s
  else if s.unseen && p.visible then p.probe { s with unseen := false }
  else p.park { s with unseen := false } due

/-- Lets the session do what it can at an instant. -/
def turn (p : Poller) (now : Nat) : Poller × Option Probe :=
  match p.session? with
  | none => (p, none)
  | some s =>
      match s.phase with
      | .ready due => p.look s due false now
      | .parked due nudged => p.look s due nudged now
      | .probing => (p, none)

/-- The session goes on after a probe. -/
def resume (p : Poller) (s : Session) (now : Nat) : Poller :=
  let due := now + p.policy.delay p.visible s.failures
  { p with session? := some { s with phase := .ready due } }

/-- Takes a good answer. -/
def succeed (p : Poller) (s : Session) (now : Nat) (answer : Liveness) : Poller :=
  let (moved, cursor) := s.cursor.advance answer.cursor?
  { p with
    snapshot :=
      { p.snapshot with
        health := .online
        failures := 0
        typing := answer.typing
        cursor? := cursor.value?
        inFlight := false
        generation := p.snapshot.generation + if moved then 1 else 0 } }.resume
    { s with cursor, failures := 0 } now

/-- Takes a failure. -/
def fail (p : Poller) (s : Session) (now : Nat) : Poller :=
  let failures := min (s.failures + 1) Backoff.maxCount
  { p with
    snapshot :=
      { p.snapshot with
        health := if p.policy.isDegraded failures then .degraded else p.snapshot.health
        failures
        inFlight := false } }.resume
    { s with failures } now

/-- Takes the answer to the probe that is under way. -/
def answer (p : Poller) (now : Nat) (outcome : Outcome Liveness) : Poller :=
  match p.session? with
  | some s =>
      match s.phase, outcome with
      | .probing, .ok liveness => p.succeed s now liveness
      | .probing, .error _ => p.fail s now
      | _, _ => p
  | none => p

/-- The instant at which the poller has something to do of its own accord. -/
def due? (p : Poller) : Option Nat :=
  match p.session?.map Session.phase with
  | some (.parked due _) => some due
  | _ => none

end Poller

end Docket
