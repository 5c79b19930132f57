/-!
# Spans of time

Instants and lengths of time are counted in nanoseconds from the beginning of
a run. The longest length that can be said has 64 bits of seconds.

Instants are ideal. They have no end, so an instant and a length always make
another one, where the clock of a machine overflows once the sum is beyond its
last instant. And a wait ends at the nanosecond for which it was set, where the
timer of a machine rounds up to the next millisecond. For lengths of whole
milliseconds from an instant that is one, the two come to the same.
-/

namespace Docket.Span

/-- A number of milliseconds. -/
def millis (n : Nat) : Nat :=
  n * 1000000

/-- A number of seconds. -/
def seconds (n : Nat) : Nat :=
  n * 1000000000

/-- The whole milliseconds of a length of time. -/
def toMillis (span : Nat) : Nat :=
  span / 1000000

/-- The longest length of time. -/
def longest : Nat :=
  UInt64.size * 1000000000 - 1

/-- A multiple of a length of time, as far as lengths go. -/
def times (span factor : Nat) : Nat :=
  min (span * factor) longest

end Docket.Span
