import Docket.Presence.Cursor
import Docket.Presence.Poller

/-!
# Notices

What somebody who watches a request is told: that the connection has got
worse or better, who is typing, and what is new in the chat. A message or a
file is new when it was made after all that has been seen; nothing has been
seen when there is no mark, and then everything is new.
-/

namespace Docket

/-- The message as one line. -/
def Message.line (m : Message) : String :=
  "[" ++ m.created ++ "] " ++ m.author ++ ": " ++ m.body

/-- The file as one line. -/
def Attachment.line (a : Attachment) : String :=
  "[" ++ a.created ++ "] attachment: " ++ a.fileName ++ " (" ++ a.mimeType ++ ")"

/-- One thing that a watcher is told. -/
inductive Notice where
  | degraded (failures : Nat)
  | restored
  | typing (peers : List Peer)
  | quiet
  | message (m : Message)
  | file (a : Attachment)

namespace Notice

/-- The notice as one line. -/
def line : Notice → String
  | degraded failures =>
      "connection degraded after " ++ toString failures ++ " failed probes; retrying"
  | restored => "connection restored"
  | typing peers => String.intercalate ", " (peers.map Peer.label) ++ " typing..."
  | quiet => "nobody is typing"
  | message m => m.line
  | file a => a.line

/-- What there is to tell of the connection. -/
def ofHealth (before after : Snapshot) : List Notice :=
  if before.health = after.health then []
  else
    match after.health with
    | .degraded => [degraded after.failures]
    | .online => [restored]

/-- What there is to tell of those who type. -/
def ofTyping (before after : Snapshot) : List Notice :=
  if before.typing = after.typing then []
  else if after.typing.isEmpty then [quiet]
  else [typing after.typing]

/-- What there is to tell when one snapshot follows another. -/
def ofSnapshots (before after : Snapshot) : List Notice :=
  ofHealth before after ++ ofTyping before after

/-- A stamp lies after all that has been seen. -/
def isNew (seen : Cursor) (stamp : String) : Bool :=
  match seen.value? with
  | some mark => Stamp.compareTexts stamp mark = .gt
  | none => true

/-- What is new in a workspace: messages first, then files. -/
def ofWorkspace (seen : Cursor) (w : Workspace) : List Notice :=
  ((w.messages.filter fun m => isNew seen m.created).map message)
    ++ (w.attachments.filter fun a => isNew seen a.created).map file

end Notice

end Docket
