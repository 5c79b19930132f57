import Docket.Span

/-!
# Backoff

How long a watcher waits between two probes. While the server answers, that
is a fixed interval, a longer one while nobody looks. After a failure the
interval doubles with each further one, up to a limit.
-/

namespace Docket

/-- The schedule of probes. -/
structure Backoff where
  visible : Nat
  hidden : Nat
  limit : Nat
  /-- After so many failures in a row the connection counts as degraded. -/
  degradedAfter : Nat

namespace Backoff

/-- Failures are counted in 32 bits. -/
def maxCount : Nat :=
  UInt32.size - 1

/-- The schedule of a watcher that was not told otherwise. -/
def standard : Backoff :=
  ⟨Span.millis 2500, Span.millis 8000, Span.millis 30000, 3⟩

/-- The interval while all is well. -/
def base (b : Backoff) (visible : Bool) : Nat :=
  if visible then b.visible else b.hidden

/-- By how much the interval has grown after so many failures in a row. -/
def growth (failures : Nat) : Nat :=
  if failures ≤ 32 then Nat.pow 2 (failures - 1) else maxCount

/-- The wait after a probe that leaves so many failures in a row. -/
def delay (b : Backoff) (visible : Bool) (failures : Nat) : Nat :=
  if failures = 0 then b.base visible
  else min (Span.times (b.base visible) (growth failures)) b.limit

/-- So many failures in a row make the connection a degraded one. -/
def isDegraded (b : Backoff) (failures : Nat) : Bool :=
  max b.degradedAfter 1 ≤ failures

end Backoff

end Docket
