import GatedManager.Duration
import GatedManager.Time.Clock

/-!
# Resync ticks

While the informers of a cache run, it ticks once in every sync period and keeps the last ticks
for its subscribers. A subscriber that looks too late learns how many it has missed.
-/

namespace GatedManager.Cache

/-- How many ticks are kept. -/
def keptTicks : Nat := 16

/-- How many ticks are due at `now` when the informers have run since `start`. -/
def ticksDue (start : Instant) (period : Duration) (now : Instant) : Nat :=
  (now - start) / period.nanos

/-- A subscriber knows how many ticks had been sent when it last looked. -/
structure Subscriber where
  seen : Nat
deriving Repr, DecidableEq

/-- What a subscriber finds. -/
structure Ticks where
  received : Nat
  /-- How many were missed. -/
  lagged : Nat
deriving Repr, DecidableEq

/-- A look at the ticks, `sent` of which there have been so far. -/
def Subscriber.look (s : Subscriber) (sent : Nat) : Ticks × Subscriber :=
  let unseen := sent - s.seen
  (⟨min unseen keptTicks, unseen - keptTicks⟩, ⟨sent⟩)

end GatedManager.Cache
