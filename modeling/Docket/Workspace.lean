import Docket.Request

/-!
# The workspace of a request

All that is shown of one request at a time: the request, its chat with the
attached files, the route it has taken and the history of its statuses.
-/

namespace Docket

/-- A message in the chat of a request. -/
structure Message where
  id : MessageId
  request : RequestId
  author : String
  body : String
  created : String
  updated? : Option String

/-- A message that is to be posted. -/
structure NewMessage where
  body : String

/-- A file attached to a request. -/
structure Attachment where
  id : AttachmentId
  request : RequestId
  message? : Option MessageId
  fileName : String
  mimeType : String
  size : UInt64
  created : String
  updated? : Option String

/-- A file that waits to be attached to a message. -/
structure Upload where
  fileName : String
  mimeType : String
  bytes : List UInt8

/-- One accepted change of status. -/
structure HistoryEntry where
  request : RequestId
  source? : Option StatusCode
  target : StatusCode
  changed : String
  importantDate? : Option String
  comment? : Option String
  /-- Seconds spent in the status that was left. -/
  duration? : Option Int64

/-- What is sent to the server to change a status. -/
structure Submission where
  status : StatusCode
  importantDate? : Option String
  comment? : Option String

/-- What the server confirms when it has changed a status. -/
structure Receipt where
  source : StatusCode
  target : StatusCode

/-- One status on the route of a request. -/
structure RouteStep where
  status : StatusCode
  entered? : Option String
  importantDate? : Option String
  /-- Seconds spent in the status. -/
  spent? : Option Int64

/-- The statuses that a request has had, and the moves open to it. -/
structure Route where
  steps : List RouteStep
  current : StatusCode
  next : List Offer

/-- A request with all that belongs to it. -/
structure Workspace where
  request : Request
  messages : List Message
  attachments : List Attachment
  route : Route
  history : List HistoryEntry

end Docket
