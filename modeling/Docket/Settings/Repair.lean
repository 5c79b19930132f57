import Docket.Settings.Basic

/-!
# Repairing settings

Settings out of range are brought back into it, section by section. Zero
counts as not set and takes the usual value. The limit of the backoff may not
be shorter than the interval while somebody looks.
-/

namespace Docket

namespace Settings

/-- A number brought between two bounds; zero takes the usual value. -/
def within (low high usual n : UInt64) : UInt64 :=
  if n = 0 then usual else if n < low then low else if high < n then high else n

/-- A number of 32 bits brought between two bounds; zero takes the usual
value. -/
def within32 (low high usual n : UInt32) : UInt32 :=
  if n = 0 then usual else if n < low then low else if high < n then high else n

end Settings

open Settings

/-- A base that can be used. -/
def BackendSettings.repair (s : BackendSettings) : BackendSettings where
  base :=
    let base := Http.plainBase s.base
    if base.isEmpty then usualBackend.base else base
  timeoutSeconds := within 1 300 usualBackend.timeoutSeconds s.timeoutSeconds

/-- A trimmed id and a known role. -/
def ActorSettings.repair (s : ActorSettings) : ActorSettings where
  id := Text.trim s.id
  role := ((Role.ofKey? s.role).getD usualRole).key

/-- Intervals that neither press the server nor forget it. -/
def PresenceSettings.repair (s : PresenceSettings) : PresenceSettings :=
  let visible := within 250 60000 usualPresence.visible s.visible
  { visible
    hidden := within 1000 300000 usualPresence.hidden s.hidden
    limit := within visible 600000 (max usualPresence.limit visible) s.limit
    degradedAfter := within32 1 20 usualPresence.degradedAfter s.degradedAfter }

/-- A heartbeat between half a second and half a minute. -/
def TypingSettings.repair (s : TypingSettings) : TypingSettings :=
  ⟨within 500 30000 usualTyping.heartbeat s.heartbeat⟩

/-- A limit and a known order. -/
def BoardSettings.repair (s : BoardSettings) : BoardSettings where
  limit := within32 1 1000 usualBoard.limit s.limit
  order := ((SortOrder.ofKey? s.order).getD usualOrder).key

/-- No blank file. -/
def LoggingSettings.repair (s : LoggingSettings) : LoggingSettings :=
  ⟨s.file?.filter fun file => !Text.isBlank file⟩

/-- All settings in range. -/
def Settings.repair (s : Settings) : Settings :=
  ⟨s.backend.repair, s.actor.repair, s.presence.repair, s.typing.repair, s.board.repair,
   s.logging.repair⟩

/-- The repair changes something. -/
def Settings.needsRepair (s : Settings) : Bool :=
  s.repair ≠ s

end Docket
