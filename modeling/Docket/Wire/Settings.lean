import Docket.Settings.Basic
import Docket.Wire.Record

/-!
# Settings as records

Settings as a record of sections. Whatever is left out takes its usual
value. A section may be read from a list; `surplus` says whether the list may
be longer than the section, as it may in the settings file.
-/

namespace Docket

open Wire Settings

/-- Where the server is. -/
def BackendSettings.codecOf (surplus : Bool) : Codec BackendSettings :=
  (Record.start BackendSettings.mk
    |>.defaults "base_url" BackendSettings.base .text usualBackend.base
    |>.defaults "request_timeout_secs" BackendSettings.timeoutSeconds .uint64
      usualBackend.timeoutSeconds).codecOf surplus "BackendConfigToml"

/-- Who the user is. -/
def ActorSettings.codecOf (surplus : Bool) : Codec ActorSettings :=
  (Record.start ActorSettings.mk
    |>.defaults "id" ActorSettings.id .text usualActor.id
    |>.defaults "role" ActorSettings.role .text usualActor.role).codecOf surplus "ActorConfigToml"

/-- How the server is probed. -/
def PresenceSettings.codecOf (surplus : Bool) : Codec PresenceSettings :=
  (Record.start PresenceSettings.mk
    |>.defaults "visible_interval_ms" PresenceSettings.visible .uint64 usualPresence.visible
    |>.defaults "hidden_interval_ms" PresenceSettings.hidden .uint64 usualPresence.hidden
    |>.defaults "max_backoff_ms" PresenceSettings.limit .uint64 usualPresence.limit
    |>.defaults "degraded_after_failures" PresenceSettings.degradedAfter .uint32
      usualPresence.degradedAfter).codecOf surplus "PresenceConfigToml"

/-- How typing is signalled. -/
def TypingSettings.codecOf (surplus : Bool) : Codec TypingSettings :=
  (Record.start TypingSettings.mk
    |>.defaults "heartbeat_interval_ms" TypingSettings.heartbeat .uint64
      usualTyping.heartbeat).codecOf surplus "TypingConfigToml"

/-- What the board shows. -/
def BoardSettings.codecOf (surplus : Bool) : Codec BoardSettings :=
  (Record.start BoardSettings.mk
    |>.defaults "default_limit" BoardSettings.limit .uint32 usualBoard.limit
    |>.defaults "sort_mode" BoardSettings.order .text usualBoard.order).codecOf surplus
    "BoardConfigToml"

/-- Where the log goes. -/
def LoggingSettings.codecOf (surplus : Bool) : Codec LoggingSettings :=
  (Record.start LoggingSettings.mk
    |>.optional "file" LoggingSettings.file? .text).codecOf surplus "LoggingConfigToml"

/-- All settings. -/
def Settings.codecOf (surplus : Bool) : Codec Settings :=
  (Record.start Settings.mk
    |>.defaults "backend" Settings.backend (BackendSettings.codecOf surplus) usualBackend
    |>.defaults "actor" Settings.actor (ActorSettings.codecOf surplus) usualActor
    |>.defaults "presence" Settings.presence (PresenceSettings.codecOf surplus) usualPresence
    |>.defaults "typing" Settings.typing (TypingSettings.codecOf surplus) usualTyping
    |>.defaults "board" Settings.board (BoardSettings.codecOf surplus) usualBoard
    |>.defaults "logging" Settings.logging (LoggingSettings.codecOf surplus) usualLogging).codecOf
    surplus "CaseflowConfig"

/-- All settings, with nothing in surplus. -/
def Settings.codec : Codec Settings :=
  Settings.codecOf false

end Docket
