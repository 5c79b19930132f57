import Docket.Http.Link
import Docket.Wire.Board
import Docket.Wire.Liveness
import Docket.Wire.Sheet

/-!
# Errands over HTTP

The calls that an errand makes, and what their answers mean. A list may come
bare or under a key, and nothing at all is an empty list. An answer that is
not what was asked for is an outage.
-/

namespace Docket

open Wire Http

namespace Http

/-- An answer as a value of a codec; `what` names it in a failure. -/
def accept {α : Type} (c : Codec α) (what : String) (answer : Json) : Outcome α :=
  (c.read answer).mapError fun why => .network (.malformed what why)

/-- An answer as a list, bare or under a key. -/
def acceptList {α : Type} (c : Codec α) (key : String) (answer : Json) : Outcome (List α) :=
  match answer with
  | .null => .ok []
  | .list _ => accept (.list c) key answer
  | .object members =>
      match Json.get? members key with
      | none | some .null => .ok []
      | some items => accept (.list c) key items
  | other => .error (.network (.noList other key))

/-- An answer that does not matter. -/
def ignore (_answer : Json) : Outcome Unit :=
  .ok ()

/-- The answer to a probe; null tells nothing. -/
def acceptLiveness : Json → Outcome Liveness
  | .null => .ok .silent
  | answer => accept Liveness.codec "liveness response" answer

/-- Something that belongs to a request. -/
def below (r : RequestId) (leaf : String) : List String :=
  ["requests", r.text, leaf]

/-- The call with a query pair for every text that is not blank. -/
def Call.askingFilled (call : Call) (key : String) (value? : Option String) : Call :=
  match value? with
  | some value => call.asking key value
  | none => call

end Http

namespace Errand

/-- The board that is asked for; filters go along as JSON. -/
def boardCall (q : BoardQuery) : Call :=
  let call := (Call.get ["kanban"]).asking "limit" (toString q.limit)
    |>.asking "sort_mode" q.order.key
  if q.filters.isEmpty then call
  else call.asking "filters" ((Codec.list BoardFilter.codec).write q.filters).render

/-- The five parts of a workspace. -/
def workspacePlan (r : RequestId) : Plan Workspace :=
  let request := Plan.fetch (.get ["requests", r.text]) (accept Request.codec "request")
  let messages := Plan.fetch (.get (below r "messages")) (acceptList Message.codec "messages")
  let attachments :=
    Plan.fetch (.get (below r "attachments")) (acceptList Attachment.codec "attachments")
  let route := Plan.fetch (.get (below r "status-route")) (accept Route.codec "status route")
  let history :=
    Plan.fetch (.get (below r "status-history")) (acceptList HistoryEntry.codec "history")
  let chat := messages.both attachments Prod.mk
  let past := route.both history Prod.mk
  request.both (chat.both past Prod.mk) fun r (chat, past) =>
    ⟨r, chat.1, chat.2, past.1, past.2⟩

/-- The templates that are asked for; blank conditions do not count. -/
def templatesCall (q : TemplateQuery) : Call :=
  (Call.get ["data-templates"]).askingFilled "topic_code"
      ((q.topic?.filter fun code => !code.isBlank).map Ident.text)
    |>.askingFilled "search" (q.search?.bind Text.filled?)

/-- The call that saves a template: it replaces the one with its id. -/
def saveTemplateCall (t : Template) : Call :=
  match t.id?.filter fun id => !id.isBlank with
  | some id => (Call.put ["data-templates", id.text]).carrying (Template.codec.write t)
  | none => (Call.post ["data-templates"]).carrying (Template.codec.write t)

/-- The calls that an errand makes. -/
def plan : (e : Errand) → Plan e.Answer
  | loadBoard q => .fetch (boardCall q) (accept Board.codec "kanban board")
  | loadWorkflow topic =>
      .fetch (.get ["topics", topic.text, "workflow"]) (accept Workflow.codec "topic workflow")
  | loadWorkspace r => workspacePlan r
  | submit r s =>
      .fetch ((Call.post (below r "status-change")).carrying (Submission.codec.write s))
        (accept Receipt.codec "status change receipt")
  | claim r => .fetch (.post (below r "claim")) ignore
  | reassign r lawyer =>
      .fetch ((Call.post (below r "reassign")).carrying
        (.object [("lawyer_id", Ident.codec.write lawyer)])) ignore
  | post r message =>
      .fetch ((Call.post (below r "messages")).carrying (NewMessage.codec.write message))
        (accept Message.codec "chat message")
  | upload r message file =>
      .fetch ((Call.post (below r "attachments")).uploading [("message_id", message.text)] file)
        (accept Attachment.codec "attachment")
  | listTemplates q => .fetch (templatesCall q) (acceptList TemplateSummary.codec "templates")
  | loadTemplate id =>
      .fetch (.get ["data-templates", id.text]) (accept Template.codec "data template")
  | saveTemplate t =>
      if Text.isBlank t.name then .settled (.error (.invalid .noTemplateName))
      else .fetch (saveTemplateCall t) (accept Template.codec "data template")
  | saveValues r updates =>
      if updates.isEmpty then .settled (.ok ())
      else
        .fetch ((Call.post (below r "data-values")).carrying
          (.object [("items", (Codec.list ValueUpdate.codec).write updates)])) ignore
  | probe r cursor? =>
      .fetch ((Call.get (below r "liveness")).askingFilled "cursor" (cursor?.bind Text.filled?))
        acceptLiveness
  | signalTyping r typing =>
      .fetch ((Call.post (below r "typing")).carrying (.object [("typing", .bool typing)])) ignore

end Errand

namespace Http.Link

variable {σ α : Type}

/-- Sends an errand over a link and waits for its answer. -/
def send (serve : Server σ) (link : Link σ) (e : Errand) : e.Reply × Link σ :=
  link.perform serve e.plan

/-- Runs a procedure of the desk over a link. -/
def work (serve : Server σ) (link : Link σ) (d : Desk α) :
    Dialogue.Ran Errand (Link σ) (Outcome α) :=
  d.run.run (fun link e => link.send serve e) link

end Http.Link

end Docket
