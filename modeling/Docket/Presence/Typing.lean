import Docket.Span
import Docket.Text.Blank

/-!
# Telling others that one types

A composer counts as typing when it has the focus, is not busy, and holds
more than white space. The signaler tells the server when that begins, again
at every heartbeat while it lasts, and once when it ends. A signal that takes
longer than a heartbeat is given up. The signaler looks at a change of the
composer before it looks at the heartbeat, and changes that come before it
looks are one change.

Heartbeats and the instants at which signals are given up are exact to the
nanosecond and have no end. A timer that rounds up to whole milliseconds would
be up to one of them late, and a clock with a last instant would overflow
behind it.
-/

namespace Docket

/-- What the user's input looks like. -/
structure Composer where
  focused : Bool
  /-- Something is being loaded or uploaded. -/
  busy : Bool
  draft : String
  deriving DecidableEq

/-- A composer that nobody uses. -/
def Composer.idle : Composer :=
  ⟨false, false, ""⟩

/-- The user is typing. -/
def Composer.isTyping (c : Composer) : Bool :=
  c.focused && !c.busy && !Text.isBlank c.draft

namespace Signaler

/-- What a signaler is doing. -/
inductive Phase where
  | waiting
  /-- A signal is on its way; the last one when `final`. -/
  | sending (final : Bool)
  | finished
  deriving DecidableEq

end Signaler

/-- Tells the server whether the user of a composer is typing. -/
structure Signaler where
  heartbeat : Nat
  composer : Composer
  /-- The composer has changed since the signaler looked at it. -/
  unseen : Bool
  /-- Nobody will change the composer any more. -/
  closed : Bool
  /-- What was signalled last. -/
  active : Bool
  /-- When the next heartbeat is due. -/
  tick : Nat
  phase : Signaler.Phase

namespace Signaler

/-- A signaler whose composer nobody uses. -/
def new (heartbeat : Nat) : Signaler :=
  ⟨heartbeat, .idle, false, false, false, 0, .waiting⟩

/-- Changes the composer; the same composer is no change. -/
def modify (s : Signaler) (f : Composer → Composer) : Signaler :=
  if f s.composer = s.composer then s else { s with composer := f s.composer, unseen := true }

/-- Says that the composer will not change any more. -/
def close (s : Signaler) : Signaler :=
  { s with closed := true }

/-- How late a heartbeat may be noticed and still count as in time. -/
def tolerance : Nat :=
  Span.millis 5

/-- When the heartbeat after the present one is due. -/
def nextTick (s : Signaler) (now : Nat) : Nat :=
  if s.tick + tolerance < now then now + s.heartbeat else s.tick + s.heartbeat

/-- Sends a signal. -/
def send (s : Signaler) (typing final : Bool) : Signaler × Option Bool :=
  ({ s with phase := .sending final }, some typing)

/-- What there is to do when the composer has not changed. -/
def rest (s : Signaler) (now : Nat) : Signaler × Option Bool :=
  if s.closed then
    if s.active then s.send false true else ({ s with phase := .finished }, none)
  else if s.active ∧ s.tick ≤ now then { s with tick := s.nextTick now }.send true false
  else (s, none)

/-- Does what there is to do at an instant. -/
def turn (s : Signaler) (now : Nat) : Signaler × Option Bool :=
  if s.phase ≠ .waiting then (s, none)
  else if s.unseen then
    let s := { s with unseen := false }
    if s.composer.isTyping = s.active then s.rest now
    else if s.composer.isTyping then
      { s with active := true, tick := now + s.heartbeat }.send true false
    else { s with active := false }.send false false
  else s.rest now

/-- The signal that was on its way has arrived, failed or been given up. -/
def sent (s : Signaler) : Signaler :=
  match s.phase with
  | .sending true => { s with phase := .finished }
  | .sending false => { s with phase := .waiting }
  | _ => s

/-- The instant of the next heartbeat, while there is one to wait for. -/
def due? (s : Signaler) : Option Nat :=
  if s.phase = .waiting ∧ s.active then some s.tick else none

/-- The signaler has come to its end. -/
def isFinished (s : Signaler) : Bool :=
  s.phase = .finished

end Signaler

end Docket
