import GatedManager.Duration

/-!
# The monotonic clock

Instants count nanoseconds from the start of the clock. They hold 63 bits of whole seconds, so
not every duration can be added to one. Timers fire at whole milliseconds, never early; one whose
end lies beyond the clock fires after thirty years.
-/

namespace GatedManager

/-- A point on the monotonic clock, in nanoseconds from its start. -/
abbrev Instant := Nat

namespace Instant

/-- Whole seconds are counted in 63 bits. -/
def secondsLimit : Nat := Nat.pow 2 63

/-- The instant a duration after `now`, when the clock reaches that far. -/
def add? (now : Instant) (d : Duration) : Option Instant :=
  if (now + d.nanos) / Duration.nanosPerSecond < secondsLimit then some (now + d.nanos) else none

/-- How long a timer runs whose end lies beyond the clock. -/
def farFuture : Duration := .ofSeconds (30 * 365 * 86400)

def nanosPerMilli : Nat := 1000000

def roundUpMillis (n : Nat) : Nat := (n + (nanosPerMilli - 1)) / nanosPerMilli * nanosPerMilli

/-- When a timer set at `now` fires. -/
def timer (now : Instant) (d : Duration) : Instant :=
  roundUpMillis ((add? now d).getD (now + farFuture.nanos))

end Instant

end GatedManager
