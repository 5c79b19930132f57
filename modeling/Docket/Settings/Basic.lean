import Docket.Actor
import Docket.Board
import Docket.Files
import Docket.Http.Connection
import Docket.Presence.Backoff

/-!
# Settings

What the user may set: where the server is, who the user is, how the server
is probed, how typing is signalled, what the board shows, and where the log
goes. The settings are kept in sections as they stand in the file. The token
is not among them; it comes from the environment alone.
-/

namespace Docket

/-- Where the server is. -/
structure BackendSettings where
  base : String
  timeoutSeconds : UInt64
  deriving DecidableEq

/-- Who the user is. -/
structure ActorSettings where
  id : String
  role : String
  deriving DecidableEq

/-- How the server is probed; lengths of time in milliseconds. -/
structure PresenceSettings where
  visible : UInt64
  hidden : UInt64
  limit : UInt64
  degradedAfter : UInt32
  deriving DecidableEq

/-- How typing is signalled; the heartbeat in milliseconds. -/
structure TypingSettings where
  heartbeat : UInt64
  deriving DecidableEq

/-- What the board shows. -/
structure BoardSettings where
  limit : UInt32
  order : String
  deriving DecidableEq

/-- Where the log goes. -/
structure LoggingSettings where
  file? : Option String
  deriving DecidableEq

/-- All settings. -/
structure Settings where
  backend : BackendSettings
  actor : ActorSettings
  presence : PresenceSettings
  typing : TypingSettings
  board : BoardSettings
  logging : LoggingSettings
  deriving DecidableEq

/-- Why there are no settings to work with. -/
inductive SettingsFault where
  | noActor
  | noHome
  /-- The variable that names the file is no text. -/
  | garbledPath
  | unreadable (path : String) (why : PathFault)
  /-- The content of the file is no text. -/
  | garbled (path : String)
  | malformed (path : String)
  | noDirectory (path : String) (why : PathFault)
  | unwritable (path : String) (why : PathFault)

/-- What is wrong, in words. -/
def SettingsFault.message : SettingsFault → String
  | .noActor => "[actor] id is not set in CASEFLOW_CONFIG"
  | .noHome => "Unable to resolve home directory from HOME or USERPROFILE"
  | .garbledPath => "CASEFLOW_CONFIG contained invalid UTF-8"
  | .unreadable path why => "Failed to read CASEFLOW_CONFIG from " ++ path ++ ": " ++ why.message
  | .garbled path =>
      "Failed to read CASEFLOW_CONFIG from " ++ path ++ ": stream did not contain valid UTF-8"
  | .malformed path => "Failed to parse CASEFLOW_CONFIG from " ++ path
  | .noDirectory path why =>
      "Failed to create parent directory " ++ path ++ " for CASEFLOW_CONFIG: " ++ why.message
  | .unwritable path why => "Failed to write CASEFLOW_CONFIG to " ++ path ++ ": " ++ why.message

namespace Settings

/-- The role of a user who was given none. -/
def usualRole : Role := .lawyer

/-- The order of a board that was given none. -/
def usualOrder : SortOrder := .updatedDesc

/-- Where the server is unless the user says otherwise. -/
def usualBackend : BackendSettings :=
  ⟨"http://127.0.0.1:8000/api", 20⟩

/-- The user who has not said who he is. -/
def usualActor : ActorSettings :=
  ⟨"", usualRole.key⟩

/-- How the server is probed unless the user says otherwise. -/
def usualPresence : PresenceSettings :=
  ⟨2500, 8000, 30000, 3⟩

/-- How typing is signalled unless the user says otherwise. -/
def usualTyping : TypingSettings :=
  ⟨2500⟩

/-- What the board shows unless the user says otherwise. -/
def usualBoard : BoardSettings :=
  ⟨400, usualOrder.key⟩

/-- No log. -/
def usualLogging : LoggingSettings :=
  ⟨none⟩

/-- The settings of a user who has said nothing. -/
def usual : Settings :=
  ⟨usualBackend, usualActor, usualPresence, usualTyping, usualBoard, usualLogging⟩

/-- The person at the desk; the id has to be set. -/
def person (s : Settings) : Except SettingsFault Actor :=
  match Text.filled? s.actor.id with
  | some id => .ok ⟨⟨id⟩, (Role.ofKey? s.actor.role).getD usualRole⟩
  | none => .error .noActor

/-- The connection to the server with a token. -/
def connection (s : Settings) (token? : Option String) : Http.Connection :=
  ⟨s.backend.base, Span.seconds s.backend.timeoutSeconds.toNat, token?⟩

/-- The schedule of probes. -/
def backoff (s : Settings) : Backoff :=
  ⟨Span.millis s.presence.visible.toNat, Span.millis s.presence.hidden.toNat,
   Span.millis s.presence.limit.toNat, s.presence.degradedAfter.toNat⟩

/-- The heartbeat of typing. -/
def heartbeat (s : Settings) : Nat :=
  Span.millis s.typing.heartbeat.toNat

/-- The order of the board. -/
def order (s : Settings) : SortOrder :=
  (SortOrder.ofKey? s.board.order).getD usualOrder

/-- The file of the log, unless it is blank. -/
def logFile? (s : Settings) : Option String :=
  s.logging.file?.bind Text.filled?

end Settings

end Docket
