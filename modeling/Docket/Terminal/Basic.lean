import Docket.Command.Perform
import Docket.Terminal.Compose
import Docket.Watch.Run

/-!
# The terminal

Where commands are run: a link to the server, files, a keyboard, a clock and
a screen. The keyboard is opened at most once, and what is not read then is
lost.
-/

namespace Docket

open Http

/-- A place where commands are run. -/
structure Terminal (σ : Type) where
  link : Link σ
  files : Files
  keyboard : List Chunk
  /-- How long the user watches before he breaks off, in nanoseconds. -/
  patience : Nat
  clock : Stamp
  /-- The lines that were printed. -/
  screen : List String

namespace Terminal

variable {σ : Type}

/-- Prints lines. -/
def print (t : Terminal σ) (lines : List String) : Terminal σ :=
  { t with screen := t.screen ++ lines }

/-- What is typed when the keyboard is opened now. -/
def typed (t : Terminal σ) : List Typed :=
  (Keyboard.readings t.keyboard).map fun typed => { typed with time := t.link.now + typed.time }

/-- Reads one line. -/
def readLine (t : Terminal σ) : Reading × Terminal σ :=
  match t.typed with
  | [] => (.ended, t)
  | first :: _ => (first.reading, { t with link.now := first.time, keyboard := [] })

/-- Reads a message, and tells the server of the typing. -/
def compose (serve : Server σ) (t : Terminal σ) (setup : Setup) (request : RequestId) :
    Option String × Terminal σ :=
  let composed := Signaling.compose (Link.listener serve) t.link.now request setup.heartbeat t.link
    t.typed
  let link := { composed.signaling.server with now := composed.now }
  (composed.draft?, { t with link, keyboard := [] })

/-- Watches a request, and prints what there is to tell. -/
def follow (serve : Server σ) (t : Terminal σ) (setup : Setup) (request : RequestId)
    (workspace : Workspace) (hidden : Bool) : Terminal σ :=
  let finish := t.link.now + t.patience
  let watching := Watching.start t.link request workspace setup.backoff hidden t.typed finish
  let watched := watching.follow serve t.link.now
  let link := { watched.polling.server with now := finish }
  { t with link, keyboard := [] }.print (watched.told.map Notice.line)

/-- Does a deed. -/
def respond (serve : Server σ) (setup : Setup) (t : Terminal σ) :
    (deed : Deed) → deed.Reply × Terminal σ
  | .call errand =>
      let (reply, link) := t.link.send serve errand
      (reply, { t with link })
  | .print line => ((), t.print [line])
  | .readLine => t.readLine
  | .readFile path => (t.files.read path, t)
  | .clock => (t.clock, t)
  | .compose request => t.compose serve setup request
  | .follow request workspace hidden => ((), t.follow serve setup request workspace hidden)

/-- Runs a command. -/
def run (serve : Server σ) (setup : Setup) (t : Terminal σ) (command : Command) :
    Dialogue.Ran Deed (Terminal σ) (Except CommandFault Unit) :=
  (command.perform setup).run.run (respond serve setup) t

end Terminal

end Docket
