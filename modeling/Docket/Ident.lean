import Docket.Text.Blank

/-!
# Identifiers

Everything the server names has an identifier of its own kind, so that the id
of a lawyer is never taken for that of a request. Identifiers are compared as
they stand; only the question whether one is blank looks past white space.
-/

namespace Docket

/-- What an identifier names. -/
inductive Ident.Kind where
  | request
  | topic
  | status
  | actor
  | message
  | attachment
  | template

/-- The identifier of a thing of one kind. -/
structure Ident (kind : Ident.Kind) where
  text : String
  deriving DecidableEq

/-- The identifier of a request. -/
abbrev RequestId := Ident .request

/-- The code of a topic. -/
abbrev TopicCode := Ident .topic

/-- The code of a status. -/
abbrev StatusCode := Ident .status

/-- The identifier of a person. -/
abbrev ActorId := Ident .actor

/-- The identifier of a chat message. -/
abbrev MessageId := Ident .message

/-- The identifier of an attached file. -/
abbrev AttachmentId := Ident .attachment

/-- The identifier of a saved template. -/
abbrev TemplateId := Ident .template

/-- Nothing but white space. -/
def Ident.isBlank {kind : Ident.Kind} (id : Ident kind) : Bool :=
  Text.isBlank id.text

end Docket
