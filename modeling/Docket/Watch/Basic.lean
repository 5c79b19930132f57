import Docket.Watch.Notice

/-!
# Watching a request

A watch keeps a mark of what has been shown and the last snapshot it looked
at. It tells what has changed between two snapshots. When the activity of the
request has moved on, the workspace is loaded again and the watch tells what
is new in it; after that, the mark stands at the latest activity in it. A
reply of the user is told at once and moves the mark as well.
-/

namespace Docket

/-- What a watch remembers. -/
structure Watch where
  /-- The latest activity that has been shown. -/
  seen : Cursor
  /-- The snapshot looked at last. -/
  last : Snapshot

namespace Watch

/-- The mark that a workspace leaves. -/
def markOf (w : Workspace) : Cursor :=
  .seededFrom w.messages w.attachments

/-- A watch that begins with a loaded workspace. -/
def start (w : Workspace) (snapshot : Snapshot) : Watch :=
  ⟨markOf w, snapshot⟩

/-- Something that happens to a watch. -/
inductive Event where
  | observed (snapshot : Snapshot)
  /-- The workspace was loaded again. -/
  | reloaded (workspace : Workspace)
  /-- A reply was posted. -/
  | posted (reply : Message)

/-- The workspace has to be loaded again after this snapshot. -/
def isBehind (watch : Watch) (snapshot : Snapshot) : Bool :=
  watch.last.generation < snapshot.generation

/-- The watch after an event, and what it tells. -/
def step (watch : Watch) : Event → Watch × List Notice
  | .observed snapshot =>
      ({ watch with last := snapshot }, Notice.ofSnapshots watch.last snapshot)
  | .reloaded w =>
      ({ watch with seen := (watch.seen.advance (markOf w).value?).2 },
       Notice.ofWorkspace watch.seen w)
  | .posted reply =>
      ({ watch with seen := (watch.seen.advance (some reply.created)).2 }, [.message reply])

/-- The watch after a number of events, and all that it tells. -/
def run (watch : Watch) : List Event → Watch × List Notice
  | [] => (watch, [])
  | event :: rest =>
      let (watch, first) := watch.step event
      let (watch, more) := watch.run rest
      (watch, first ++ more)

end Watch

end Docket
