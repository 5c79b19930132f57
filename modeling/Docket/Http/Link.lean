import Docket.Errand
import Docket.Http.Plan

/-!
# The link to the server

A link has a clock and remembers every call that went over it. Launching a
plan makes its calls at this instant and says when the answer will be there;
performing it lets that time pass.
-/

namespace Docket.Http

/-- A call that was made. -/
structure Sent where
  time : Nat
  call : Call

/-- The link to a server. -/
structure Link (σ : Type) where
  server : σ
  now : Nat
  /-- The calls that were made, in order. -/
  sent : List Sent

namespace Link

variable {σ α : Type}

/-- A fresh link. -/
def start (server : σ) : Link σ :=
  ⟨server, 0, []⟩

/-- Makes one call. -/
def call (serve : Server σ) (link : Link σ) (c : Call) : Reply Json × Link σ :=
  let (reply, server) := serve link.server link.now c
  (reply, { link with server, sent := link.sent ++ [⟨link.now, c⟩] })

/-- Makes calls one after another at one instant, up to the first that fails
there and then. An answer that does not pass its check is a failure. -/
def issue (serve : Server σ) : Link σ → List Fetch → List (Reply Json) × Link σ
  | link, [] => ([], link)
  | link, f :: rest =>
      let (reply, link) := link.call serve f.call
      let checked : Reply Json :=
        { reply with
          outcome := reply.outcome.bind fun answer => (f.check answer).map fun _ => answer }
      if checked.failsAtOnce then ([checked], link)
      else
        let (more, link) := issue serve link rest
        (checked :: more, link)

/-- Makes the calls of a plan and says what will come of them, and when. -/
def launch (serve : Server σ) (link : Link σ) (p : Plan α) : Reply α × Link σ :=
  let (replies, link) := link.issue serve p.fetches
  let all := Replies.gather replies
  (⟨all.delay, all.outcome.bind p.finish⟩, link)

/-- Lets time pass. -/
def wait (link : Link σ) (delay : Nat) : Link σ :=
  { link with now := link.now + delay }

/-- Makes the calls of a plan and waits for their answers. -/
def perform (serve : Server σ) (link : Link σ) (p : Plan α) : Outcome α × Link σ :=
  let (reply, link) := link.launch serve p
  (reply.outcome, link.wait reply.delay)

end Link

end Docket.Http
