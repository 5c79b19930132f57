import Docket.Wire.Workflow
import Docket.Workspace

/-!
# Requests and workspaces on the wire

A request, its chat, its history and its route as records. An assignee, a
declared column and the status that a history entry left are written as null
when there is none; all other optional members are left out.
-/

namespace Docket

open Wire

/-- The person at the desk. -/
def Actor.codec : Codec Actor :=
  (Record.start Actor.mk
    |>.needs "id" Actor.id Ident.codec
    |>.needs "role" Actor.role Role.codec).codec "Actor"

/-- A request. -/
def Request.codec : Codec Request :=
  (Record.start Request.mk
    |>.needs "id" Request.id Ident.codec
    |>.defaults "track_number" Request.track .text ""
    |>.needs "topic_code" Request.topic Ident.codec
    |>.needs "status_code" Request.status Ident.codec
    |>.optional "status_name" Request.statusName? .text
    |>.nullable "assigned_lawyer_id" Request.assignee? Ident.codec
    |>.defaults "available_transitions" Request.offers (.list Offer.codec) []
    |>.defaults "status_group" Request.column? Column.declared none
    |>.optional "important_date_at" Request.importantDate? .text
    |>.optional "updated_at" Request.updated? .text).codec "CaseRequest"

/-- A chat message. -/
def Message.codec : Codec Message :=
  (Record.start Message.mk
    |>.needs "id" Message.id Ident.codec
    |>.needs "request_id" Message.request Ident.codec
    |>.defaults "author_label" Message.author .text ""
    |>.defaults "body" Message.body .text ""
    |>.needs "created_at" Message.created .text
    |>.optional "updated_at" Message.updated? .text).codec "ChatMessage"

/-- A message that is to be posted. -/
def NewMessage.codec : Codec NewMessage :=
  (Record.start NewMessage.mk
    |>.needs "body" NewMessage.body .text).codec "NewChatMessage"

/-- An attached file. -/
def Attachment.codec : Codec Attachment :=
  (Record.start Attachment.mk
    |>.needs "id" Attachment.id Ident.codec
    |>.needs "request_id" Attachment.request Ident.codec
    |>.optional "message_id" Attachment.message? Ident.codec
    |>.needs "file_name" Attachment.fileName .text
    |>.defaults "mime_type" Attachment.mimeType .text ""
    |>.defaults "size_bytes" Attachment.size .uint64 0
    |>.needs "created_at" Attachment.created .text
    |>.optional "updated_at" Attachment.updated? .text).codec "Attachment"

/-- One accepted change of status. -/
def HistoryEntry.codec : Codec HistoryEntry :=
  (Record.start HistoryEntry.mk
    |>.needs "request_id" HistoryEntry.request Ident.codec
    |>.nullable "from_status" HistoryEntry.source? Ident.codec
    |>.needs "to_status" HistoryEntry.target Ident.codec
    |>.needs "changed_at" HistoryEntry.changed .text
    |>.optional "important_date_at" HistoryEntry.importantDate? .text
    |>.optional "comment" HistoryEntry.comment? .text
    |>.optional "duration_seconds" HistoryEntry.duration? .int64).codec "StatusHistoryEntry"

/-- What is sent to change a status. -/
def Submission.codec : Codec Submission :=
  (Record.start Submission.mk
    |>.needs "status_code" Submission.status Ident.codec
    |>.nullableInObject "important_date_at" Submission.importantDate? .text
    |>.nullableInObject "comment" Submission.comment? .text).codec "StatusChangeSubmission"

/-- What the server confirms. -/
def Receipt.codec : Codec Receipt :=
  (Record.start Receipt.mk
    |>.needs "from_status" Receipt.source Ident.codec
    |>.needs "to_status" Receipt.target Ident.codec).codec "StatusChangeReceipt"

/-- One status on a route. -/
def RouteStep.codec : Codec RouteStep :=
  (Record.start RouteStep.mk
    |>.needs "status" RouteStep.status Ident.codec
    |>.optional "entered_at" RouteStep.entered? .text
    |>.optional "important_date_at" RouteStep.importantDate? .text
    |>.optional "time_spent_seconds" RouteStep.spent? .int64).codec "RouteStep"

/-- The route of a request. -/
def Route.codec : Codec Route :=
  (Record.start Route.mk
    |>.defaults "steps" Route.steps (.list RouteStep.codec) []
    |>.needs "current" Route.current Ident.codec
    |>.defaults "next" Route.next (.list Offer.codec) []).codec "StatusRoute"

/-- A request with all that belongs to it. -/
def Workspace.codec : Codec Workspace :=
  (Record.start Workspace.mk
    |>.needs "request" Workspace.request Request.codec
    |>.defaults "messages" Workspace.messages (.list Message.codec) []
    |>.defaults "attachments" Workspace.attachments (.list Attachment.codec) []
    |>.needs "status_route" Workspace.route Route.codec
    |>.defaults "history" Workspace.history (.list HistoryEntry.codec) []).codec
    "WorkspaceSnapshot"

end Docket
