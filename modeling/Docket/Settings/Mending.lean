import Docket.Settings.Repair

/-!
# Repairing field by field

The repair of settings as it goes along: one field after another is put in
order, and each says whether that changed it. A number that is set is brought
between two bounds, and there is nothing between two bounds of which the lower
one lies above the upper one. A repair with such bounds has no outcome.
-/

namespace Docket

/-- A value after its repair, and whether the repair changed it. -/
structure Mended (α : Type) where
  value : α
  changed : Bool

/-- A value that takes the place of an old one. -/
def Mended.of {α : Type} [DecidableEq α] (old new : α) : Mended α :=
  ⟨new, new ≠ old⟩

namespace Settings

section Numbers

variable {α : Type} [LT α] [LE α] [DecidableLT α] [DecidableLE α] [DecidableEq α] [OfNat α 0]

/-- A number between two bounds; none when the bounds are the wrong way
round. -/
def clamp? (low high n : α) : Option α :=
  if low ≤ high then some (if n < low then low else if high < n then high else n) else none

/-- Brings a number between two bounds; zero takes the usual value. -/
def bring? (low high usual n : α) : Option (Mended α) := do
  let m ← if n = 0 then some usual else clamp? low high n
  return .of n m

end Numbers

end Settings

open Settings

/-- The base, and how long an answer may take. -/
def BackendSettings.mend? (s : BackendSettings) : Option (Mended BackendSettings) := do
  let plain := Http.plainBase s.base
  let base := Mended.of s.base (if plain.isEmpty then usualBackend.base else plain)
  let timeout ← bring? 1 300 usualBackend.timeoutSeconds s.timeoutSeconds
  return ⟨⟨base.value, timeout.value⟩, base.changed || timeout.changed⟩

/-- The id and the role. -/
def ActorSettings.mend (s : ActorSettings) : Mended ActorSettings :=
  let id := Mended.of s.id (Text.trim s.id)
  let role := Mended.of s.role ((Role.ofKey? s.role).getD usualRole).key
  ⟨⟨id.value, role.value⟩, id.changed || role.changed⟩

/-- The intervals and the limit, which may not be below the interval that was
repaired first. -/
def PresenceSettings.mend? (s : PresenceSettings) : Option (Mended PresenceSettings) := do
  let visible ← bring? 250 60000 usualPresence.visible s.visible
  let hidden ← bring? 1000 300000 usualPresence.hidden s.hidden
  let floor := visible.value
  let limit ← bring? floor 600000 (max usualPresence.limit floor) s.limit
  let degradedAfter ← bring? 1 20 usualPresence.degradedAfter s.degradedAfter
  return ⟨⟨visible.value, hidden.value, limit.value, degradedAfter.value⟩,
    visible.changed || hidden.changed || limit.changed || degradedAfter.changed⟩

/-- The heartbeat. -/
def TypingSettings.mend? (s : TypingSettings) : Option (Mended TypingSettings) := do
  let heartbeat ← bring? 500 30000 usualTyping.heartbeat s.heartbeat
  return ⟨⟨heartbeat.value⟩, heartbeat.changed⟩

/-- The limit and the order. -/
def BoardSettings.mend (s : BoardSettings) : Mended BoardSettings :=
  let limit := Mended.of s.limit (if s.limit = 0 then usualBoard.limit else min s.limit 1000)
  let order := Mended.of s.order ((SortOrder.ofKey? s.order).getD usualOrder).key
  ⟨⟨limit.value, order.value⟩, limit.changed || order.changed⟩

/-- The file of the log. -/
def LoggingSettings.mend (s : LoggingSettings) : Mended LoggingSettings :=
  if s.file?.any Text.isBlank then ⟨⟨none⟩, true⟩ else ⟨s, false⟩

/-- Repairs one section after another, and says whether any of them was
changed. -/
def Settings.mend? (s : Settings) : Option (Mended Settings) := do
  let backend ← s.backend.mend?
  let actor := s.actor.mend
  let presence ← s.presence.mend?
  let typing ← s.typing.mend?
  let board := s.board.mend
  let logging := s.logging.mend
  return ⟨⟨backend.value, actor.value, presence.value, typing.value, board.value, logging.value⟩,
    backend.changed || actor.changed || presence.changed || typing.changed || board.changed
      || logging.changed⟩

end Docket
