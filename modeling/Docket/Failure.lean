import Docket.Wire.Codec
import Docket.Workspace

/-!
# Failures

Why an operation of the desk did not succeed. A failure names its cause; the
words for it are in one place, `Failure.message`. Whatever fails after a
status has been committed is told as a change that was made in part.
-/

namespace Docket

/-- Why an actor may not do something. -/
inductive Denial where
  | clientClaims
  | alreadyAssigned (request : RequestId) (owner : ActorId)
  | adminsReassign (request : RequestId)
  | clientMoves
  | claimFirst (request : RequestId)
  | otherLawyer (request : RequestId)
  /-- The row was filled by the other party. -/
  | lockedRow (label : String)
  /-- What the server said. -/
  | reported (text : String)

/-- What is wrong with the input of an operation. -/
inductive Fault where
  | noDestination
  | noTarget
  | noLawyer
  | noLabel
  | noDocument (label : String)
  | noSheetName
  | noTemplateName
  | rowOutOfRange (index : Nat)
  | otherRequest (loaded : RequestId)
  | notOffered (status : StatusCode)
  | noTopic
  | foreignEdge (source target : StatusCode) (edgeTopic topic : TopicCode)
  | blankEdge (topic : TopicCode)
  | repeatedEdge (topic : TopicCode) (source target : StatusCode)
  | noEdge (source target : StatusCode) (topic : TopicCode)
  | unmet (source target : StatusCode) (keys types : List String)
  | noBase
  | badBase (base reason : String)
  | pathlessBase (base : String)
  /-- What the server said. -/
  | reported (text : String)

/-- Why the server could not be worked with. -/
inductive Outage where
  /-- An answer that is not what was asked for. -/
  | malformed (what : String) (why : Wire.DecodeError)
  /-- An answer in which no list can be found. -/
  | noList (answer : Json) (key : String)
  /-- What the server or the connection said. -/
  | reported (text : String)

/-- What follows the commit of a status. -/
inductive FollowUp where
  | note
  | upload
  | reload
  deriving DecidableEq

/-- Why an operation did not succeed. -/
inductive Failure where
  /-- No move leads from the status into the column. -/
  | noLegalMove (source : StatusCode) (column : Column)
  /-- The request already has the status. -/
  | noChange (status : StatusCode)
  | denied (why : Denial)
  | network (why : Outage)
  | invalid (why : Fault)
  /-- The status was committed, and what followed failed. -/
  | partly (committed : Receipt) (stage : FollowUp) (reason : String)

/-- The words for a denial. -/
def Denial.message : Denial → String
  | .clientClaims => "clients cannot claim requests"
  | .alreadyAssigned request owner =>
      "request " ++ request.text ++ " is already assigned to " ++ owner.text
  | .adminsReassign request => "only administrators can reassign request " ++ request.text
  | .clientMoves => "clients cannot change request status"
  | .claimFirst request => "claim request " ++ request.text ++ " before changing its status"
  | .otherLawyer request => "request " ++ request.text ++ " is assigned to another lawyer"
  | .lockedRow label =>
      "'" ++ label ++ "' was filled by the other party and cannot be changed"
  | .reported text => text

/-- What an edge still asks for, in words. -/
def Fault.demands (keys types : List String) : List String :=
  (if keys.isEmpty then [] else ["missing data: " ++ String.intercalate ", " keys])
    ++ if types.isEmpty then [] else ["missing files of type: " ++ String.intercalate ", " types]

/-- The words for a fault. -/
def Fault.message : Fault → String
  | .noDestination => "a destination status is required"
  | .noTarget => "either a board column or a destination status is required"
  | .noLawyer => "a lawyer must be selected for reassignment"
  | .noLabel => "a field label is required"
  | .noDocument label => "file field '" ++ label ++ "' needs a document name"
  | .noSheetName => "a template name is required"
  | .noTemplateName => "template name is required"
  | .rowOutOfRange index => "row position " ++ toString index ++ " is out of range"
  | .otherRequest loaded =>
      "loaded request '" ++ loaded.text ++ "' does not match the one being moved"
  | .notOffered status => "'" ++ status.text ++ "' is not one of the offered destinations"
  | .noTopic => "topic code must not be empty"
  | .foreignEdge source target edgeTopic topic =>
      "edge " ++ source.text ++ " -> " ++ target.text ++ " belongs to topic '" ++ edgeTopic.text
        ++ "', not '" ++ topic.text ++ "'"
  | .blankEdge topic => "topic '" ++ topic.text ++ "' has an edge with an empty status code"
  | .repeatedEdge topic source target =>
      "topic '" ++ topic.text ++ "' has more than one enabled edge " ++ source.text ++ " -> "
        ++ target.text
  | .noEdge source target topic =>
      "no enabled edge " ++ source.text ++ " -> " ++ target.text ++ " in topic '" ++ topic.text
        ++ "'"
  | .unmet source target keys types =>
      source.text ++ " -> " ++ target.text ++ " requires "
        ++ String.intercalate "; " (demands keys types)
  | .noBase => "backend base_url is empty; set [backend] base_url in the caseflow config"
  | .badBase base reason => "backend base_url '" ++ base ++ "' is invalid: " ++ reason
  | .pathlessBase base => "backend base_url '" ++ base ++ "' cannot carry a path"
  | .reported text => text

/-- The words for an outage. -/
def Outage.message : Outage → String
  | .malformed what why => "caseflow API returned a malformed " ++ what ++ ": " ++ why.message
  | .noList answer key =>
      "caseflow API returned " ++ answer.render ++ " where a list of " ++ key ++ " was expected"
  | .reported text => text

/-- What the desk was doing, in words. -/
def FollowUp.words : FollowUp → String
  | .note => "posting the status note"
  | .upload => "uploading attachments"
  | .reload => "reloading the workspace"

namespace Failure

/-- The words for a failure. -/
def message : Failure → String
  | .noLegalMove source column =>
      "no legal transition from '" ++ source.text ++ "' into the " ++ column.key ++ " column"
  | .noChange status => "request is already in status '" ++ status.text ++ "'"
  | .denied why => "permission denied: " ++ why.message
  | .network why => "network failure: " ++ why.message
  | .invalid why => "validation failed: " ++ why.message
  | .partly committed stage reason =>
      "status changed from '" ++ committed.source.text ++ "' to '" ++ committed.target.text
        ++ "', but " ++ stage.words ++ " failed: " ++ reason

/-- The status that is known to be committed despite the failure. -/
def committed? : Failure → Option StatusCode
  | .partly committed _ _ => some committed.target
  | _ => none

/-- Trying again may help and can do no harm. -/
def isRetryable : Failure → Bool
  | .network _ => true
  | _ => false

/-- A failure of something that followed a commit. -/
def after (committed : Receipt) (stage : FollowUp) (failure : Failure) : Failure :=
  .partly committed stage failure.message

end Failure

/-- The outcome of an operation that may fail. -/
abbrev Outcome (α : Type) := Except Failure α

/-- Two steps that may fail succeed when the first one does, and the second with
what it yields. -/
theorem ok_bind_iff {ε α β : Type} {x : Except ε α} {f : α → Except ε β} {b : β} :
    x >>= f = .ok b ↔ ∃ a, x = .ok a ∧ f a = .ok b := by
  cases x with
  | error failure => exact ⟨nofun, fun ⟨_, h, _⟩ => nomatch h⟩
  | ok a => exact ⟨fun h => ⟨a, rfl, h⟩, fun ⟨_, ha, h⟩ => by cases ha; exact h⟩

end Docket
