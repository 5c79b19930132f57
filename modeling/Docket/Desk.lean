import Docket.Errand
import Docket.MoveFlow
import Docket.Ownership

/-!
# The desk

How one person changes the status of requests, claims them and hands them
over. A change is committed first; its note, its files and the reload follow
in this order, and only if all before succeeded. What fails after the commit
is told as a change that was made in part. Whatever the person may not do is
refused before anything is asked of the server.
-/

namespace Docket

/-- A change of status as the person wants it. -/
structure Change where
  status : StatusCode
  importantDate? : Option String
  comment? : Option String
  files : List Upload

/-- A change of status with all that followed. -/
structure Changed where
  receipt : Receipt
  note? : Option Message
  attachments : List Attachment
  workspace : Workspace

/-- What became of a card that was moved. -/
inductive Moved where
  | stayed
  /-- One of these statuses has to be picked. -/
  | needsChoice (codes : List StatusCode)
  | changed (result : Changed)

/-- The comment of a change, unless it is blank. -/
def Change.remark? (c : Change) : Option String :=
  c.comment?.bind Text.filled?

/-- The change comes with a note in the chat. -/
def Change.hasNote (c : Change) : Bool :=
  c.remark?.isSome || !c.files.isEmpty

/-- The note that tells of a change of status. -/
def noteBody (receipt : Receipt) (comment? : Option String) : String :=
  "Status change: " ++ receipt.source.text ++ " -> " ++ receipt.target.text
    ++ match comment?.bind Text.filled? with
      | some comment => "\n" ++ comment
      | none => ""

namespace Desk

/-- An errand that follows a commit. -/
def follow (committed : Receipt) (stage : FollowUp) (e : Errand) : Desk e.Answer :=
  (send e).adapt (Failure.after committed stage)

/-- Uploads files one after another. -/
def uploadAll (committed : Receipt) (request : RequestId) (message : MessageId) :
    List Upload → Desk (List Attachment)
  | [] => return []
  | file :: rest => do
      let first ← follow committed .upload (.upload request message file)
      return first :: (← uploadAll committed request message rest)

/-- The note of a committed change and its files, if it has any. -/
def annotate (committed : Receipt) (r : Request) (c : Change) :
    Desk (Option Message × List Attachment) := do
  if c.hasNote then
    let note ← follow committed .note (.post r.id ⟨noteBody committed c.remark?⟩)
    return (some note, ← uploadAll committed r.id note.id c.files)
  else return (none, [])

/-- The actor may make this change. -/
def mayChange (actor : Actor) (r : Request) (status : StatusCode) : Outcome Unit :=
  if status.isBlank then .error (.invalid .noDestination)
  else if status = r.status then .error (.noChange status)
  else actor.mayMove r

/-- Changes the status of a request. -/
def changeStatus (actor : Actor) (r : Request) (c : Change) : Desk Changed := do
  check (mayChange actor r c.status)
  let receipt ← send (.submit r.id ⟨c.status, c.importantDate?, c.remark?⟩)
  let (note?, attachments) ← annotate receipt r c
  let workspace ← follow receipt .reload (.loadWorkspace r.id)
  return ⟨receipt, note?, attachments, workspace⟩

/-- Moves a card to a column or a status, and changes the status when there is
nothing to pick. -/
def move (actor : Actor) (r : Request) (column? : Option Column) (status? : Option StatusCode)
    (details : Change) : Desk Moved := do
  match ← check (r.destination column? status?) with
  | .stay => return .stayed
  | .choice offers => return .needsChoice (offers.map Offer.target)
  | .settled status => return .changed (← changeStatus actor r { details with status })

/-- Claims a request and loads what the server then holds. -/
def claim (actor : Actor) (r : Request) : Desk Workspace := do
  check (actor.mayClaim r)
  send (.claim r.id)
  send (.loadWorkspace r.id)

/-- Hands a request to a lawyer and loads what the server then holds. -/
def reassign (actor : Actor) (r : Request) (lawyer : ActorId) : Desk Workspace := do
  check (actor.mayReassign r lawyer)
  send (.reassign r.id lawyer)
  send (.loadWorkspace r.id)

end Desk

end Docket
