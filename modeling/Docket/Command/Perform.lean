import Docket.Command.Basic
import Docket.Command.Deed
import Docket.Command.Lines
import Docket.Command.Pick
import Docket.Desk
import Docket.MimeType
import Docket.Workflow.Route

/-!
# Doing what a command says

Every command loads what it needs, asks the desk to do the work, and prints
what came of it. A move is planned on the request as it was just loaded. Only
when the status is settled and all files are read is anything changed.
-/

namespace Docket

/-- Whom the desk works for, and what he has set. -/
structure Setup where
  actor : Actor
  backoff : Backoff
  heartbeat : Nat
  limit : UInt32
  order : SortOrder

/-- The setup that settings describe: the connection has to be usable, and
the user has to have said who he is. -/
def Setup.ofSettings (s : Settings) (token? : Option String) : Except CommandFault Setup := do
  (s.connection token?).check.mapError .failed
  let actor ← s.person.mapError .settings
  return ⟨actor, s.backoff, s.heartbeat, s.board.limit, s.order⟩

namespace Job

/-- The request as the server holds it now. -/
def loadRequest (id : RequestId) : Job Request := do
  return (← send (.loadWorkspace id)).request

/-- Shows the board. -/
def showBoard (setup : Setup) (limit? : Option UInt32) (order? : Option SortOrder) : Job Unit := do
  let b ← send (.loadBoard ⟨limit?.getD setup.limit, order?.getD setup.order, []⟩)
  say (b.lines ++ b.remarkLines)

/-- Asks the user to pick a status. -/
def askPick (offers : List Offer) : Job (Option StatusCode) := do
  say (pickLines offers)
  match ← act .readLine with
  | .line answer => return pick? offers answer
  | .ended => return none
  | .garbled => throw .garbledChoice

/-- Lets the user pick if there is something to pick. -/
def settleFlow (flow : MoveFlow) : Job MoveFlow := do
  if flow.offers.isEmpty then return flow
  else return flow.settle (← askPick flow.offers)

/-- The important date that the workflow of the topic gives to a change made
now. No date is no fault. -/
def defaultDate? (r : Request) (status : StatusCode) : Job (Option String) := do
  let outcome : Outcome Workflow ← act (.call (.loadWorkflow r.topic))
  match outcome.bind Graph.ofWorkflow with
  | .ok graph => return graph.defaultDate? r.status status (← act .clock)
  | .error _ => return none

/-- The date of a change: the one that the user gave, or the usual one. -/
def dateOf (r : Request) (status : StatusCode) (given? : Option String) : Job (Option String) := do
  match given? with
  | some date => return some date
  | none => defaultDate? r status

/-- Reads a file to attach. -/
def readUpload (path : String) : Job Upload := do
  match ← act (.readFile path) with
  | .error _ => throw (.unreadableFile path)
  | .ok bytes =>
      match fileName? path with
      | some name => return ⟨name, mimeTypeOf name, bytes⟩
      | none => throw (.namelessFile path)

/-- Reads files one after another. -/
def readUploads : List String → Job (List Upload)
  | [] => return []
  | path :: rest => do
      let first ← readUpload path
      return first :: (← readUploads rest)

/-- Shows what a change has brought. -/
def showChange (r : Request) (changed : Changed) : Job Unit :=
  say ([changed.receipt.line r]
    ++ (if changed.attachments.isEmpty then []
        else ["attached " ++ toString changed.attachments.length ++ " file(s)"])
    ++ changed.workspace.route.lines)

/-- Changes the status of a loaded request. -/
def change (setup : Setup) (r : Request) (status : StatusCode) (details : MoveDetails) :
    Job Unit := do
  let date? ← dateOf r status details.importantDate?
  let files ← readUploads details.files
  showChange r (← ofDesk (Desk.changeStatus setup.actor r ⟨status, date?, details.comment?, files⟩))

/-- Moves a card. -/
def move (setup : Setup) (id : RequestId) (details : MoveDetails) : Job Unit := do
  let r ← loadRequest id
  match MoveFlow.plan? r details.status? details.column? with
  | none => throw .noTarget
  | some planned =>
      let flow ← settleFlow planned
      match flow.pending?, flow.failure? with
      | some status, _ => change setup r status details
      | none, some failure => throw (.failed failure)
      | none, none => say [r.label ++ ": nothing to do"]

/-- Claims a request. -/
def claim (setup : Setup) (id : RequestId) : Job Unit := do
  let r ← loadRequest id
  say [(← ofDesk (Desk.claim setup.actor r)).request.line]

/-- Hands a request to a lawyer. -/
def reassign (setup : Setup) (id : RequestId) (lawyer : ActorId) : Job Unit := do
  let r ← loadRequest id
  say [(← ofDesk (Desk.reassign setup.actor r lawyer)).request.line]

/-- Watches a request. -/
def watch (id : RequestId) (hidden : Bool) : Job Unit := do
  let w ← send (.loadWorkspace id)
  say ["watching " ++ w.request.label ++ " (type a line to reply, ctrl-c to stop)"]
  act (.follow id w hidden)

/-- The message that is to be sent. -/
def messageOf (id : RequestId) (body? : Option String) : Job String := do
  match body? with
  | some body => return body
  | none =>
      match ← act (.compose id) with
      | some draft => return draft
      | none => throw .garbledMessage

/-- Sends a message, unless it is blank. -/
def sendMessage (id : RequestId) (body? : Option String) : Job Unit := do
  let body ← messageOf id body?
  if Text.isBlank body then say ["nothing to send"]
  else say [(← send (.post id ⟨body⟩)).line]

/-- Lists templates. -/
def listTemplates (query : TemplateQuery) : Job Unit := do
  say (templateLines (← send (.listTemplates query)))

/-- Shows a template. -/
def showTemplate (id : TemplateId) : Job Unit := do
  say (← send (.loadTemplate id)).lines

end Job

/-- Does what a command says. -/
def Command.perform (setup : Setup) : Command → Job Unit
  | .board limit? order? => Job.showBoard setup limit? order?
  | .move request details => Job.move setup request details
  | .claim request => Job.claim setup request
  | .reassign request lawyer => Job.reassign setup request lawyer
  | .watch request hidden => Job.watch request hidden
  | .send request body? => Job.sendMessage request body?
  | .templates query => Job.listTemplates query
  | .template id => Job.showTemplate id
  | .help => Job.say usageLines

end Docket
