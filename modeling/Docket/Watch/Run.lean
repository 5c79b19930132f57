import Docket.Http.Presence
import Docket.Terminal.Keyboard
import Docket.Watch.Basic

/-!
# A watch in time

A watch together with the poller that feeds it, the replies that the user
types, and the link over which all of this goes. The watcher does one thing
at a time: while it loads the workspace or posts a reply it looks at nothing
else, and only the end of the watch interrupts it. Of what there is at one
instant it looks at the snapshot before the keyboard. A reload or a reply
that fails is passed over.

At every instant the watcher goes first, and the poller goes when the watcher
has nothing left to do.
-/

namespace Docket

open Http

/-- What a watcher is doing. -/
inductive Watching.Phase where
  | idle
  | reloading (arrives : Nat) (outcome : Outcome Workspace)
  | posting (arrives : Nat) (outcome : Outcome Message)
  | finished

/-- A watch at work. -/
structure Watching (σ : Type) where
  request : RequestId
  watch : Watch
  polling : Polling (Link σ)
  phase : Watching.Phase
  /-- What will be typed, and at which instants. -/
  replies : List Typed
  /-- The instant at which the user breaks off. -/
  finish : Nat
  /-- What has happened to the watch, in order. -/
  events : List Watch.Event
  told : List Notice

namespace Watching

variable {σ : Type}

/-- The watch has ended. -/
def isOver (w : Watching σ) : Bool :=
  match w.phase with
  | .finished => true
  | _ => false

/-- Something happens to the watch. -/
def tell (w : Watching σ) (event : Watch.Event) : Watching σ :=
  let (watch, notices) := w.watch.step event
  { w with watch, events := w.events ++ [event], told := w.told ++ notices }

/-- Makes the calls of an errand. -/
def launch (serve : Server σ) (w : Watching σ) (now : Nat) (e : Errand) :
    Docket.Reply e.Answer × Watching σ :=
  let (reply, server) := w.polling.server.launchAt serve now e
  (reply, { w with polling := { w.polling with server } })

/-- Looks at the snapshot, and loads the workspace if there is activity that
has not been shown. -/
def observe (serve : Server σ) (w : Watching σ) (now : Nat) : Watching σ :=
  let snapshot := w.polling.poller.snapshot
  let next := w.tell (.observed snapshot)
  if w.watch.isBehind snapshot then
    let (reply, next) := next.launch serve now (.loadWorkspace w.request)
    { next with phase := .reloading (now + reply.delay) reply.outcome }
  else next

/-- Takes what was typed; a line that is not blank is posted. -/
def read (serve : Server σ) (w : Watching σ) (now : Nat) : Reading → Watching σ
  | .line text =>
      match Text.filled? text with
      | some body =>
          let (reply, next) := w.launch serve now (.post w.request ⟨body⟩)
          { next with phase := .posting (now + reply.delay) reply.outcome }
      | none => w
  | _ => { w with replies := [] }

/-- Takes the workspace that was loaded again. -/
def reloaded (w : Watching σ) : Outcome Workspace → Watching σ
  | .ok workspace => { w with phase := .idle }.tell (.reloaded workspace)
  | .error _ => { w with phase := .idle }

/-- Takes the reply that was posted, and asks for an early probe. -/
def posted (w : Watching σ) : Outcome Message → Watching σ
  | .ok reply => { w with phase := .idle, polling := w.polling.nudge }.tell (.posted reply)
  | .error _ => { w with phase := .idle }

/-- The next thing that the watcher does at an instant, if there is any. -/
def turn? (serve : Server σ) (w : Watching σ) (now : Nat) : Option (Watching σ) :=
  if w.isOver then none
  else if w.finish ≤ now then some { w with phase := .finished }
  else
    match w.phase with
    | .reloading time outcome => if time ≤ now then some (w.reloaded outcome) else none
    | .posting time outcome => if time ≤ now then some (w.posted outcome) else none
    | _ =>
        if w.polling.poller.snapshot ≠ w.watch.last then some (w.observe serve now)
        else
          match w.replies with
          | typed :: rest =>
              if typed.time ≤ now then
                some ({ w with replies := rest }.read serve now typed.reading)
              else none
          | [] => none

/-- Does one thing after another while there is any. -/
def actIn (serve : Server σ) (now : Nat) : Nat → Watching σ → Watching σ
  | 0, w => w
  | turns + 1, w =>
      match w.turn? serve now with
      | some next => actIn serve now turns next
      | none => w

/-- Does all that there is to do at an instant: for every reply a post and its
answer, and besides a snapshot, a reload, its answer and the end. -/
def act (serve : Server σ) (now : Nat) (w : Watching σ) : Watching σ :=
  actIn serve now (2 * w.replies.length + 4) w

/-- How often the watcher and the poller take turns at one instant: the
poller answers the nudges of the first turn, and the watcher shows what the
poller has learnt. -/
def rounds : Nat := 3

/-- Lets the watcher and the poller do what they can at an instant. -/
def settleIn (serve : Server σ) (now : Nat) : Nat → Watching σ → Watching σ
  | 0, w => w
  | rounds + 1, w =>
      let w := w.act serve now
      if w.isOver then w
      else settleIn serve now rounds { w with polling := w.polling.settle (Link.prober serve) now }

/-- Does what there is to do at an instant. -/
def settle (serve : Server σ) (now : Nat) (w : Watching σ) : Watching σ :=
  settleIn serve now rounds w

/-- The instants at which the watcher has something to do. -/
def ownTimes (w : Watching σ) : List Nat :=
  match w.phase with
  | .reloading time _ => [time]
  | .posting time _ => [time]
  | .idle => (w.replies.head?.map Typed.time).toList
  | .finished => []

/-- The next instant at which there is something to do. -/
def next? (w : Watching σ) : Option Nat :=
  if w.isOver then none else some ((w.ownTimes ++ w.polling.next?.toList).foldl min w.finish)

/-- Begins to watch a request whose workspace is loaded. -/
def start (link : Link σ) (request : RequestId) (workspace : Workspace) (policy : Backoff)
    (hidden : Bool) (replies : List Typed) (finish : Nat) : Watching σ :=
  let polling := ((Polling.new policy link).setVisible (!hidden)).start link.now request
    (Watch.markOf workspace)
  ⟨request, .start workspace polling.poller.snapshot, polling, .idle, replies, finish, [], []⟩

/-- Watches until the user breaks off. -/
def follow (serve : Server σ) (now : Nat) (w : Watching σ) : Watching σ :=
  Timeline.advance (settle serve) next? w.finish now w

end Watching

end Docket
