import GatedManager.Election.Elector

/-!
# Campaigns

A campaign makes attempts one after the other. *Acquiring* goes on, with a pause of one retry
period between attempts, until one succeeds. *Holding* rests for a retry period and then opens a
window in which it makes attempts in the same way; the first success closes the window and the
next rest begins. When the renew deadline passes in an open window, the lease is lost.

A campaign looks at its cancellation only while it pauses or rests.
-/

namespace GatedManager.Election

/-- What an open campaign waits for. -/
inductive Wait
  | answer (attempt : Attempt)
  | pause (wake : Instant)

/-- How a campaign ended. -/
inductive Outcome
  /-- The lease was acquired. -/
  | acquired
  /-- The campaign was cancelled before it held the lease. -/
  | abandoned
  /-- The campaign was cancelled while it held the lease. -/
  | released
  /-- No renewal succeeded within the deadline. -/
  | lost
deriving Repr, DecidableEq

inductive Stage
  | acquiring (wait : Wait)
  | resting (wake : Instant)
  | renewing (deadline : Instant) (wait : Wait)
  | ended (outcome : Outcome)

structure Campaign where
  elector : Elector
  cancelled : Bool
  stage : Stage

namespace Campaign

/-- A campaign to acquire the lease, with its first attempt. -/
def acquire (elector : Elector) (cancelled : Bool) (clock : Timestamp) : Campaign :=
  ⟨elector, cancelled, .acquiring (.answer (.reading clock))⟩

/-- A pause of one retry period. -/
def pauseFrom (elector : Elector) (now : Instant) : Instant :=
  Instant.timer now elector.config.retryPeriod

/-- A campaign to hold the lease, which begins with a rest. -/
def hold (elector : Elector) (cancelled : Bool) (now : Instant) : Campaign :=
  ⟨elector, cancelled, if cancelled then .ended .released else .resting (pauseFrom elector now)⟩

def outcome? (c : Campaign) : Option Outcome :=
  match c.stage with
  | .ended outcome => some outcome
  | _ => none

/-- The attempt that waits for an answer. -/
def attempt? (c : Campaign) : Option Attempt :=
  match c.stage with
  | .acquiring (.answer attempt) => some attempt
  | .renewing _ (.answer attempt) => some attempt
  | _ => none

/-- The next instant at which a timer of the campaign fires. -/
def timer? (c : Campaign) : Option Instant :=
  match c.stage with
  | .acquiring (.pause wake) => some wake
  | .resting wake => some wake
  | .renewing deadline (.pause wake) => some (min deadline wake)
  | .renewing deadline (.answer _) => some deadline
  | _ => none

/-- Whether the campaign pauses or rests. -/
def isIdle (c : Campaign) : Bool :=
  match c.stage with
  | .acquiring (.pause _) => true
  | .resting _ => true
  | .renewing _ (.pause _) => true
  | _ => false

/-- The cancellation has come, and the campaign may not have taken notice of it yet. -/
def signal (c : Campaign) : Campaign := { c with cancelled := true }

/-- The cancellation has come, and a campaign that pauses or rests has taken notice of it. -/
def cancel (c : Campaign) : Campaign :=
  match c.stage with
  | .acquiring (.pause _) => { c with cancelled := true, stage := .ended .abandoned }
  | .resting _ => { c with cancelled := true, stage := .ended .released }
  | .renewing _ (.pause _) => { c with cancelled := true, stage := .ended .released }
  | _ => { c with cancelled := true }

/-- Whether a timer wakes the campaign at `now`. A cancelled one that pauses takes notice of its
cancellation before the deadline of its window, so only the end of the pause can come first. -/
def isDue (c : Campaign) (now : Instant) : Bool :=
  match c.cancelled, c.stage with
  | true, .renewing _ (.pause wake) => wake ≤ now
  | _, _ => c.timer?.any (· ≤ now)

/-- A timer has fired; a new attempt reads the wall clock. The deadline comes before a pause that
ends with it. -/
def wake (c : Campaign) (now : Instant) (clock : Timestamp) : Campaign :=
  match c.stage with
  | .acquiring (.pause wake) =>
    if wake ≤ now then { c with stage := .acquiring (.answer (.reading clock)) } else c
  | .resting wake =>
    let deadline := Instant.timer now c.elector.config.renewDeadline
    if wake ≤ now then { c with stage := .renewing deadline (.answer (.reading clock)) } else c
  | .renewing deadline (.pause wake) =>
    if deadline ≤ now then { c with stage := .ended .lost }
    else if wake ≤ now then { c with stage := .renewing deadline (.answer (.reading clock)) }
    else c
  | .renewing deadline (.answer _) =>
    if deadline ≤ now then { c with stage := .ended .lost } else c
  | _ => c

/-- What a campaign does when an attempt has ended. -/
def conclude (c : Campaign) (elector : Elector) (held : Bool) (now : Instant) : Campaign :=
  match c.stage with
  | .acquiring _ =>
    if held then ⟨elector, c.cancelled, .ended .acquired⟩
    else if c.cancelled then ⟨elector, true, .ended .abandoned⟩
    else ⟨elector, false, .acquiring (.pause (pauseFrom elector now))⟩
  | .renewing deadline _ =>
    if c.cancelled then ⟨elector, true, .ended .released⟩
    else if held then ⟨elector, false, .resting (pauseFrom elector now)⟩
    else ⟨elector, false, .renewing deadline (.pause (pauseFrom elector now))⟩
  | _ => c

/-- The campaign with a further attempt in its place. -/
def attempting (c : Campaign) (elector : Elector) (attempt : Attempt) : Campaign :=
  match c.stage with
  | .acquiring _ => ⟨elector, c.cancelled, .acquiring (.answer attempt)⟩
  | .renewing deadline _ => ⟨elector, c.cancelled, .renewing deadline (.answer attempt)⟩
  | _ => c

/-- The answer to the request of the attempt has come. A failed attempt counts as one that did not
get the lease. -/
def answer (c : Campaign) (answer : Answer) (now : Instant) : Except Crash Campaign :=
  match c.attempt? with
  | none => .ok c
  | some attempt =>
    match c.elector.advance attempt answer now with
    | .error crash => .error crash
    | .ok (elector, .waiting attempt) => .ok (c.attempting elector attempt)
    | .ok (elector, .finished (.ok held)) => .ok (c.conclude elector held now)
    | .ok (elector, .finished (.error _)) => .ok (c.conclude elector false now)

end Campaign

/-- The text of a lost lease. -/
def lossReason (config : Config) : String :=
  "failed to renew lease " ++ config.leaseKey ++ " within " ++ config.renewDeadline.render

end GatedManager.Election
