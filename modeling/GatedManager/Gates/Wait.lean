import GatedManager.Gates.Access
import GatedManager.Time.Clock

/-!
# Waiting for the first snapshot

The wait ends with the first of three events: a snapshot is published, the wait is cancelled, the
time is over.
-/

namespace GatedManager.Gates

/-- How long a process waits for its gates. -/
def waitLimit : Duration := .ofSeconds 60

/-- How a wait ended, and when. -/
structure WaitResult where
  result : Except GateError Unit
  at_ : Instant

/-- The end of a wait from `start` to `deadline`, given when a snapshot is first published and
when the wait is cancelled. What happened before the start counts as at the start; of several
events at one instant the snapshot comes first, then the deadline. -/
def wait (start deadline : Instant) (observed cancelled : Option Instant) : WaitResult :=
  let observed := observed.map (max start)
  let cancelled := cancelled.map (max start)
  match observed, cancelled with
  | none, none => ⟨.error .timedOut, deadline⟩
  | some o, none => if o ≤ deadline then ⟨.ok (), o⟩ else ⟨.error .timedOut, deadline⟩
  | none, some c => if c < deadline then ⟨.error .cancelled, c⟩ else ⟨.error .timedOut, deadline⟩
  | some o, some c =>
    if o ≤ deadline ∧ o ≤ c then ⟨.ok (), o⟩
    else if c < deadline then ⟨.error .cancelled, c⟩
    else ⟨.error .timedOut, deadline⟩

end GatedManager.Gates
