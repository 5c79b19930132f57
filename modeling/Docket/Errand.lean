import Docket.Board
import Docket.Dialogue
import Docket.Failure
import Docket.Presence.Liveness
import Docket.Sheet.Basic

/-!
# Errands

What the desk may ask of the server. The server stays the authority: whatever
changes is changed there, and the desk shows what the server holds.
-/

namespace Docket

/-- One thing that is asked of the server. -/
inductive Errand where
  | loadBoard (query : BoardQuery)
  | loadWorkflow (topic : TopicCode)
  | loadWorkspace (request : RequestId)
  | submit (request : RequestId) (submission : Submission)
  | claim (request : RequestId)
  | reassign (request : RequestId) (lawyer : ActorId)
  | post (request : RequestId) (message : NewMessage)
  | upload (request : RequestId) (message : MessageId) (file : Upload)
  | listTemplates (query : TemplateQuery)
  | loadTemplate (id : TemplateId)
  /-- Replaces the template that has the id, or adds one when there is none. -/
  | saveTemplate (template : Template)
  | saveValues (request : RequestId) (updates : List ValueUpdate)
  | probe (request : RequestId) (cursor? : Option String)
  | signalTyping (request : RequestId) (typing : Bool)

namespace Errand

/-- What an errand brings back when it succeeds. -/
@[reducible] def Answer : Errand → Type
  | loadBoard _ => Board
  | loadWorkflow _ => Workflow
  | loadWorkspace _ => Workspace
  | submit _ _ => Receipt
  | claim _ => Unit
  | reassign _ _ => Unit
  | post _ _ => Message
  | upload _ _ _ => Attachment
  | listTemplates _ => List TemplateSummary
  | loadTemplate _ => Template
  | saveTemplate _ => Template
  | saveValues _ _ => Unit
  | probe _ _ => Liveness
  | signalTyping _ _ => Unit

/-- What an errand brings back. -/
@[reducible] def Reply (e : Errand) : Type :=
  Outcome e.Answer

end Errand

/-- A procedure of the desk, which may fail. -/
abbrev Desk (α : Type) :=
  ExceptT Failure (Dialogue Errand Errand.Reply) α

namespace Desk

/-- Sends one errand. -/
def send (e : Errand) : Desk e.Answer :=
  ExceptT.mk (Dialogue.question e)

/-- Goes on unless a check fails. -/
def check {α : Type} (outcome : Outcome α) : Desk α :=
  ExceptT.mk (.done outcome)

end Desk

end Docket
