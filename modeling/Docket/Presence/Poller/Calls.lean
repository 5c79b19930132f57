import Docket.Presence.Poller

/-!
# Calls to a poller that overlap

To stop a poller and to start it takes time, since the session that is taken
away has to end first, and other calls may come in between. One call at a time
may hold the poller. A stop holds it only while it takes the session away, and
publishes that nothing is watched when that session has ended; a start holds
it from its beginning to its end.

Which call goes on is nobody's choice here: a schedule says it, step by step.
-/

namespace Docket

namespace Calls

/-- What a caller asks for. -/
inductive Call where
  | stop
  | start (request : RequestId) (seed : Cursor)

/-- One step of a schedule. -/
inductive Step where
  /-- Somebody calls. -/
  | call (c : Call)
  /-- The call with this number among those that wait comes to hold the poller. -/
  | enter (i now : Nat)
  /-- The session that a stop has taken away has ended. -/
  | stopped
  /-- The session that a start has taken away has ended, as it should or by a fault. -/
  | switched (now : Nat) (sound : Bool)
  /-- A session that was taken away publishes once more. -/
  | straggle (snapshot : Snapshot)
  | nudge
  | setVisible (visible : Bool)
  | turn (now : Nat)
  | answer (now : Nat) (outcome : Outcome Liveness)

end Calls

/-- A poller and the calls to it that are under way. -/
structure Calls where
  poller : Poller
  /-- The calls that have not held the poller yet. -/
  waiting : List Calls.Call
  /-- How many stops have taken a session away and wait for its end. -/
  stopping : Nat
  /-- The start that holds the poller until the session before has ended. -/
  switching? : Option (RequestId × Cursor)
  /-- When what is watched was published, a stop had still to clear what is
  published. No step looks at this. -/
  beside : Bool

namespace Calls

/-- A poller that nobody has called. -/
def new (policy : Backoff) : Calls :=
  ⟨.new policy, [], 0, none, false⟩

/-- No call is under way. -/
def isQuiet (w : Calls) : Bool :=
  w.waiting.isEmpty && w.stopping == 0 && w.switching?.isNone

/-- Publishes a new session and begins it. -/
def publish (w : Calls) (now : Nat) (request : RequestId) (seed : Cursor) : Calls :=
  { w with poller := w.poller.attach now request seed, beside := 0 < w.stopping }

/-- A stop holds the poller: it takes the session away, if there is one. -/
def beginStop (w : Calls) : Calls :=
  if w.poller.session?.isNone then w
  else { w with poller := w.poller.detach, stopping := w.stopping + 1 }

/-- A start holds the poller. It keeps holding it when it has to take a session away. -/
def beginStart (w : Calls) (now : Nat) (request : RequestId) (seed : Cursor) : Calls :=
  if w.poller.active? = some request then w
  else if w.poller.session?.isNone then w.publish now request seed
  else { w with poller := w.poller.detach, switching? := some (request, seed) }

/-- Lets a call that waits hold the poller, unless another one does. -/
def enter (w : Calls) (i now : Nat) : Calls :=
  if w.switching?.isSome then w
  else
    let rest := { w with waiting := w.waiting.eraseIdx i }
    match w.waiting[i]? with
    | some .stop => rest.beginStop
    | some (.start request seed) => rest.beginStart now request seed
    | none => w

/-- A stop ends. -/
def endStop (w : Calls) : Calls :=
  if w.stopping = 0 then w
  else { w with poller := w.poller.clear, stopping := w.stopping - 1 }

/-- The start that holds the poller ends; when the session before it ended by a
fault it fails and publishes no session. -/
def endStart (w : Calls) (now : Nat) (sound : Bool) : Calls :=
  match w.switching? with
  | some (request, seed) =>
      let cleared := { w with poller := w.poller.clear, switching? := none }
      if sound then cleared.publish now request seed else cleared
  | none => w

/-- A session that was taken away publishes once more, if there is one. It
leaves alone which request is published. -/
def straggle (w : Calls) (snapshot : Snapshot) : Calls :=
  if 0 < w.stopping ∨ w.switching?.isSome then
    let request? := w.poller.snapshot.request?
    { w with poller := { w.poller with snapshot := { snapshot with request? } } }
  else w

/-- Does a step of a schedule. -/
def step (w : Calls) : Step → Calls
  | .call c => { w with waiting := w.waiting ++ [c] }
  | .enter i now => w.enter i now
  | .stopped => w.endStop
  | .switched now sound => w.endStart now sound
  | .straggle snapshot => w.straggle snapshot
  | .nudge => { w with poller := w.poller.nudge }
  | .setVisible visible => { w with poller := w.poller.setVisible visible }
  | .turn now => { w with poller := (w.poller.turn now).1 }
  | .answer now outcome => { w with poller := w.poller.answer now outcome }

/-- Follows a schedule. -/
def run (steps : List Step) (w : Calls) : Calls :=
  steps.foldl step w

end Calls

end Docket
