import GatedManager.Proofs.Election.Authorship
import GatedManager.Proofs.Runs

/-!
# The minutes of a campaign

The minutes of a campaign record when its windows open, when its attempts begin, send their writes
and end, when it is cancelled and when it returns. What the API says is left open: an answer may
come at any time, say anything, or never come.

The clock shows whole multiples of its grain and does not run past a timer that is still to fire. A
campaign that idles when it is cancelled takes notice of that, unless the end of its pause or rest
has come as well: then either may come first.

`Advances` lists what an event can do to a campaign and its minutes. Facts about minutes are proved
from this list and do not open the functions behind it.
-/

namespace GatedManager.Election

/-- Whether every duration of an election can be added to an instant. -/
structure Config.Fits (config : Config) (now : Instant) : Prop where
  lease : Instant.reaches now config.leaseDuration
  renew : Instant.reaches now config.renewDeadline
  retry : Instant.reaches now config.retryPeriod

theorem Config.Fits.before {config : Config} {now later : Nat} (h : config.Fits later)
    (passes : now ≤ later) : config.Fits now :=
  ⟨Instant.onClock_mono (Nat.add_le_add_right passes _) h.lease,
    Instant.onClock_mono (Nat.add_le_add_right passes _) h.renew,
    Instant.onClock_mono (Nat.add_le_add_right passes _) h.retry⟩

/-- What happens in a campaign, and when. -/
inductive Mark
  /-- Holding the lease begins. -/
  | entered (now : Instant)
  /-- A window opens. -/
  | opened (now : Instant)
  /-- An attempt begins. -/
  | began (now : Instant)
  /-- An attempt sends a write. -/
  | sent (now : Instant)
  /-- An attempt ends, with the lease or without it. -/
  | ended (now : Instant) (held : Bool)
  /-- The campaign is cancelled. -/
  | cancelled (now : Instant)
  | returned (now : Instant) (outcome : Outcome)
deriving Repr, DecidableEq

def Mark.now : Mark → Instant
  | entered now => now
  | opened now => now
  | began now => now
  | sent now => now
  | ended now _ => now
  | cancelled now => now
  | returned now _ => now

/-- What a step of an attempt leaves in the minutes. A failed attempt ends without the lease. -/
def Progress.marks (now : Instant) : Progress → List Mark
  | waiting next => if next.isWrite then [.sent now] else []
  | finished (.ok held) => [.ended now held]
  | finished (.error _) => [.ended now false]

namespace Campaign

/-- What the minutes say of an answer to an attempt. -/
def marksOfAnswer (c : Campaign) (attempt : Attempt) (answer : Answer) (now : Instant) :
    List Mark :=
  match c.elector.advance attempt answer now with
  | .ok (_, progress) => progress.marks now
  | .error _ => []

/-- What the minutes say when a timer has brought a campaign into a new state. -/
def marksOfWake (before after : Campaign) (now : Instant) : List Mark :=
  match before.stage, after.attempt? with
  | .resting _, some _ => [.began now, .opened now]
  | _, some _ => [.began now]
  | _, none => []

/-- What the minutes say of the outcome of a campaign. -/
def marksOfOutcome (c : Campaign) (now : Instant) : List Mark :=
  c.outcome?.toList.map (.returned now)

end Campaign

structure Minuted where
  campaign : Campaign
  now : Instant
  /-- What has happened so far, the latest first. -/
  minutes : List Mark
  /-- The arithmetic without a result that has ended the process. -/
  crash : Option Crash := none

namespace Minuted

inductive Event
  /-- Time passes. -/
  | pass (now : Instant)
  | answer (answer : Answer)
  /-- A timer fires. -/
  | wake (clock : { t : Timestamp // t.IsValid })
  /-- The campaign is cancelled. -/
  | cancel
  /-- A campaign that idles takes notice of its cancellation. -/
  | notice

/-- A campaign to acquire the lease, with its first attempt. -/
def acquire (elector : Elector) (cancelled : Bool) (clock : { t : Timestamp // t.IsValid })
    (now : Instant) : Minuted where
  campaign := .acquire elector cancelled clock
  now := now
  minutes := .began now :: if cancelled then [.cancelled now] else []

/-- A campaign to hold the lease. -/
def hold (elector : Elector) (cancelled : Bool) (now : Instant) : Minuted where
  campaign := .hold elector cancelled now
  now := now
  minutes :=
    if cancelled then [.returned now .released, .entered now, .cancelled now] else [.entered now]

def pass (grain : Nat) (t : Minuted) (now : Instant) : Option Minuted :=
  if t.now ≤ now ∧ grain ∣ now ∧ t.campaign.timer?.all (now ≤ ·) then
    some { t with now := now }
  else none

def answer (t : Minuted) (answer : Answer) : Option Minuted :=
  match t.campaign.attempt? with
  | none => none
  | some attempt =>
    if attempt.awaits answer then
      match t.campaign.answer answer t.now with
      | .error crash => some { t with crash := some crash }
      | .ok after => some { t with
          campaign := after
          minutes := after.marksOfOutcome t.now ++
            t.campaign.marksOfAnswer attempt answer t.now ++ t.minutes }
    else none

def wake (t : Minuted) (clock : Timestamp) : Option Minuted :=
  if t.campaign.isDue t.now then
    let after := t.campaign.wake t.now clock
    some { t with
      campaign := after
      minutes := after.marksOfOutcome t.now ++ t.campaign.marksOfWake after t.now ++ t.minutes }
  else none

def cancel (t : Minuted) : Option Minuted :=
  if t.campaign.outcome? = none then
    some { t with campaign := t.campaign.signal, minutes := .cancelled t.now :: t.minutes }
  else none

def notice (t : Minuted) : Option Minuted :=
  if t.campaign.cancelled ∧ t.campaign.isIdle then
    let after := t.campaign.cancel
    some { t with
      campaign := after
      minutes := after.marksOfOutcome t.now ++ t.minutes }
  else none

/-- What follows an event, `none` when the event is not possible. Nothing follows a crash. -/
def step (grain : Nat) (t : Minuted) (event : Event) : Option Minuted :=
  if t.crash.isSome then none
  else match event with
  | .pass now => t.pass grain now
  | .answer answer => t.answer answer
  | .wake clock => t.wake clock
  | .cancel => t.cancel
  | .notice => t.notice

/-- Whether an attempt has still to read the lease. -/
def isReading (t : Minuted) : Bool := t.campaign.attempt?.any (!·.isWrite)

/-! ### What an event can do -/

/-- How a campaign that idles ends when it takes notice of its cancellation. -/
def yields (stage : Stage) : Outcome :=
  match stage with
  | .acquiring _ => .abandoned
  | _ => .released

/-- The ways in which a campaign and its minutes go on. -/
inductive Advances (grain : Nat) (t : Minuted) : Event → Minuted → Prop
  | passed {now : Instant} (later : t.now ≤ now) (whole : grain ∣ now)
      (early : ∀ fires, t.campaign.timer? = some fires → now ≤ fires) :
      Advances grain t (.pass now) { t with now := now }
  /-- An answer leads to arithmetic without a result. -/
  | crashed {attempt : Attempt} {answer : Answer} {crash : Crash}
      (waits : t.campaign.attempt? = some attempt)
      (crashes : t.campaign.elector.advance attempt answer t.now = .error crash) :
      Advances grain t (.answer answer) { t with crash := some crash }
  /-- An attempt has read, and its write goes out. -/
  | sent {clock : Timestamp} {answer : Answer} {next : Attempt} {elector : Elector}
      (waits : t.campaign.attempt? = some (.reading clock)) (write : next.isWrite)
      (advances : Elector.Advances t.campaign.elector t.now (.reading clock) answer elector
        (.waiting next)) :
      Advances grain t (.answer answer) { t with
        campaign := t.campaign.attempting elector next
        minutes := .sent t.now :: t.minutes }
  | ended {attempt : Attempt} {answer : Answer} {elector : Elector}
      {result : Except AttemptError Bool} (held : Bool)
      (waits : t.campaign.attempt? = some attempt)
      (advances : Elector.Advances t.campaign.elector t.now attempt answer elector
        (.finished result))
      (is_held : held = true ↔ result = .ok true) :
      Advances grain t (.answer answer) { t with
        campaign := t.campaign.conclude elector held t.now
        minutes := (t.campaign.conclude elector held t.now).marksOfOutcome t.now ++
          .ended t.now held :: t.minutes }
  /-- The pause of a campaign that wants to acquire the lease is over. -/
  | retried {clock : { t : Timestamp // t.IsValid }} {wake : Instant}
      (pauses : t.campaign.stage = .acquiring (.pause wake)) (due : wake ≤ t.now) :
      Advances grain t (.wake clock) { t with
        campaign := { t.campaign with stage := .acquiring (.answer (.reading clock)) }
        minutes := .began t.now :: t.minutes }
  /-- A rest is over, and a window opens. -/
  | opened {clock : { t : Timestamp // t.IsValid }} {wake : Instant}
      (rests : t.campaign.stage = .resting wake) (due : wake ≤ t.now) :
      Advances grain t (.wake clock) { t with
        campaign := { t.campaign with
          stage := .renewing (Instant.timer t.now t.campaign.elector.config.renewDeadline)
            (.answer (.reading clock)) }
        minutes := .began t.now :: .opened t.now :: t.minutes }
  /-- A pause in a window is over. -/
  | again {clock : { t : Timestamp // t.IsValid }} {deadline wake : Instant}
      (pauses : t.campaign.stage = .renewing deadline (.pause wake)) (early : t.now < deadline)
      (due : wake ≤ t.now) :
      Advances grain t (.wake clock) { t with
        campaign := { t.campaign with stage := .renewing deadline (.answer (.reading clock)) }
        minutes := .began t.now :: t.minutes }
  /-- The deadline of a window has passed. A cancelled campaign that pauses takes notice of that
  before, unless its pause is over as well. -/
  | lost {clock : { t : Timestamp // t.IsValid }} {deadline : Instant} {wait : Wait}
      (renews : t.campaign.stage = .renewing deadline wait) (closed : deadline ≤ t.now)
      (unnoticed : t.campaign.cancelled → ∀ wake, wait = .pause wake → wake ≤ t.now) :
      Advances grain t (.wake clock) { t with
        campaign := { t.campaign with stage := .ended .lost }
        minutes := .returned t.now .lost :: t.minutes }
  | cancelled (open_ : t.campaign.outcome? = none) :
      Advances grain t .cancel { t with
        campaign := t.campaign.signal
        minutes := .cancelled t.now :: t.minutes }
  | noticed (cancelled : t.campaign.cancelled) (idles : t.campaign.isIdle) :
      Advances grain t .notice { t with
        campaign := { t.campaign with stage := .ended (yields t.campaign.stage) }
        minutes := .returned t.now (yields t.campaign.stage) :: t.minutes }

variable {grain : Nat} {t t' : Minuted} {event : Event}

theorem isReading_iff :
    t.isReading ↔ ∃ clock, t.campaign.attempt? = some (.reading clock) := by
  unfold isReading
  cases waits : t.campaign.attempt? with
  | none => simp
  | some attempt => cases attempt <;> simp [Attempt.isWrite]

theorem advances_pass {now : Instant} (h : t.pass grain now = some t') :
    Advances grain t (.pass now) t' := by
  unfold Minuted.pass at h
  split at h
  case isFalse => cases h
  case isTrue possible =>
    obtain ⟨later, whole, before⟩ := possible
    obtain rfl := Option.some.inj h
    refine .passed later whole ?_
    intro fires is_timer
    simpa [is_timer] using before

/-- An answer that an attempt waits for lets it send its write only when it has been read. -/
theorem advances_waiting {attempt next : Attempt} {answer : Answer} {elector : Elector}
    (waits : t.campaign.attempt? = some attempt) (awaited : attempt.awaits answer = true)
    (advances : Elector.Advances t.campaign.elector t.now attempt answer elector
      (.waiting next)) :
    next.isWrite = true ∧ Advances grain t (.answer answer) { t with
      campaign := t.campaign.attempting elector next
      minutes := .sent t.now :: t.minutes } := by
  obtain ⟨clock, rfl, write⟩ := advances.reads_of_waiting awaited
  exact ⟨write, .sent waits write advances⟩

section Answers

variable {attempt next : Attempt} {answer : Answer} {elector : Elector}
  (waits : t.campaign.attempt? = some attempt) (awaited : attempt.awaits answer = true)
include waits awaited

theorem answer_crashed {crash : Crash}
    (h : t.campaign.elector.advance attempt answer t.now = .error crash) :
    t.answer answer = some { t with crash := some crash } := by
  simp only [Minuted.answer, waits, awaited, if_true, Campaign.answer, h]

theorem answer_sent (write : next.isWrite)
    (h : t.campaign.elector.advance attempt answer t.now = .ok (elector, .waiting next)) :
    t.answer answer = some { t with
      campaign := t.campaign.attempting elector next
      minutes := .sent t.now :: t.minutes } := by
  have open_ : (t.campaign.attempting elector next).outcome? = none := by
    rcases Campaign.attempt?_eq_some_iff.1 waits with seeks | ⟨d, renews⟩
    · simp [Campaign.attempting, seeks, Campaign.outcome?]
    · simp [Campaign.attempting, renews, Campaign.outcome?]
  simp [Minuted.answer, waits, awaited, Campaign.answer, h, Campaign.marksOfAnswer,
    Progress.marks, write, Campaign.marksOfOutcome, open_]

theorem answer_ended {result : Except AttemptError Bool} {held : Bool}
    (is_held : held = true ↔ result = .ok true)
    (h : t.campaign.elector.advance attempt answer t.now = .ok (elector, .finished result)) :
    t.answer answer = some { t with
      campaign := t.campaign.conclude elector held t.now
      minutes := (t.campaign.conclude elector held t.now).marksOfOutcome t.now ++
        .ended t.now held :: t.minutes } := by
  cases result with
  | error error =>
      obtain rfl : held = false := by simpa using is_held
      simp [Minuted.answer, waits, awaited, Campaign.answer, h, Campaign.marksOfAnswer,
        Progress.marks]
  | ok won =>
      obtain rfl : held = won := by simpa using is_held
      simp [Minuted.answer, waits, awaited, Campaign.answer, h, Campaign.marksOfAnswer,
        Progress.marks]

end Answers

theorem advances_answer {answer : Answer} (h : t.answer answer = some t') :
    Advances grain t (.answer answer) t' := by
  have possible := h
  unfold Minuted.answer at possible
  split at possible
  case h_1 => cases possible
  case h_2 attempt waits =>
    split at possible
    case isFalse => cases possible
    case isTrue awaited =>
      cases is_step : t.campaign.elector.advance attempt answer t.now with
      | error crash =>
          obtain rfl := Option.some.inj ((answer_crashed waits awaited is_step).symm.trans h)
          exact .crashed waits is_step
      | ok after =>
          obtain ⟨elector, progress⟩ := after
          have advances := Elector.advances_of_advance is_step
          match progress with
          | .waiting next =>
              obtain ⟨write, sends⟩ : next.isWrite = true ∧ Advances grain t (.answer answer) _ :=
                advances_waiting waits awaited advances
              obtain rfl := Option.some.inj ((answer_sent waits awaited write is_step).symm.trans h)
              exact sends
          | .finished (.ok held) =>
              have is_held : held = true ↔ (.ok held : Except AttemptError Bool) = .ok true := by
                simp
              obtain rfl := Option.some.inj
                ((answer_ended waits awaited is_held is_step).symm.trans h)
              exact .ended held waits advances is_held
          | .finished (.error error) =>
              have is_held : false = true ↔
                  (.error error : Except AttemptError Bool) = .ok true := by
                simp
              obtain rfl := Option.some.inj
                ((answer_ended waits awaited is_held is_step).symm.trans h)
              exact .ended false waits advances is_held

theorem advances_wake {clock : { t : Timestamp // t.IsValid }} (h : t.wake clock = some t') :
    Advances grain t (.wake clock) t' := by
  unfold Minuted.wake at h
  split at h
  case isFalse => cases h
  case isTrue due =>
    obtain rfl := Option.some.inj h
    cases stage : t.campaign.stage with
    | acquiring wait =>
        cases wait with
        | answer attempt => simp [Campaign.isDue, Campaign.timer?, stage] at due
        | pause wake =>
            have ready : wake ≤ t.now := by simpa [Campaign.isDue, Campaign.timer?, stage] using due
            simpa [Campaign.wake, stage, ready, Campaign.marksOfOutcome, Campaign.marksOfWake,
              Campaign.outcome?, Campaign.attempt?] using
                @Advances.retried grain t clock wake stage ready
    | resting wake =>
        have ready : wake ≤ t.now := by simpa [Campaign.isDue, Campaign.timer?, stage] using due
        simpa [Campaign.wake, stage, ready, Campaign.marksOfOutcome, Campaign.marksOfWake,
          Campaign.outcome?, Campaign.attempt?] using
            @Advances.opened grain t clock wake stage ready
    | renewing deadline wait =>
        by_cases closed : deadline ≤ t.now
        · have unnoticed : t.campaign.cancelled → ∀ wake, wait = .pause wake → wake ≤ t.now := by
            rintro cancelled wake rfl
            simpa [Campaign.isDue, stage, cancelled] using due
          have ends : t.campaign.wake t.now clock = { t.campaign with stage := .ended .lost } := by
            cases wait <;> simp [Campaign.wake, stage, closed]
          simpa [ends, Campaign.marksOfOutcome, Campaign.marksOfWake, Campaign.outcome?,
            Campaign.attempt?, stage] using
              @Advances.lost grain t clock deadline wait stage closed unnoticed
        · cases wait with
          | answer attempt => simp [Campaign.isDue, Campaign.timer?, stage, closed] at due
          | pause wake =>
              have ready : wake ≤ t.now := by
                cases cancelled : t.campaign.cancelled with
                | true => simpa [Campaign.isDue, stage, cancelled] using due
                | false =>
                    have first : min deadline wake ≤ t.now := by
                      simpa [Campaign.isDue, Campaign.timer?, stage, cancelled] using due
                    refine Nat.le_of_not_lt fun pauses => absurd first ?_
                    exact Nat.not_le.2 (Nat.lt_min.2 ⟨Nat.lt_of_not_le closed, pauses⟩)
              simpa [Campaign.wake, stage, closed, ready, Campaign.marksOfOutcome,
                Campaign.marksOfWake, Campaign.outcome?, Campaign.attempt?] using
                  @Advances.again grain t clock deadline wake stage (Nat.lt_of_not_le closed) ready
    | ended outcome => simp [Campaign.isDue, Campaign.timer?, stage] at due

theorem advances_cancel (h : t.cancel = some t') : Advances grain t .cancel t' := by
  unfold Minuted.cancel at h
  split at h
  case isFalse => cases h
  case isTrue open_ =>
    obtain rfl := Option.some.inj h
    exact .cancelled open_

theorem cancel_eq {c : Campaign} (cancelled : c.cancelled = true) (idles : c.isIdle = true) :
    c.cancel = { c with stage := .ended (yields c.stage) } := by
  cases stage : c.stage with
  | acquiring wait =>
      cases wait with
      | answer attempt => simp [Campaign.isIdle, stage] at idles
      | pause wake => simp [Campaign.cancel, stage, cancelled, yields]
  | resting wake => simp [Campaign.cancel, stage, cancelled, yields]
  | renewing deadline wait =>
      cases wait with
      | answer attempt => simp [Campaign.isIdle, stage] at idles
      | pause wake => simp [Campaign.cancel, stage, cancelled, yields]
  | ended outcome => simp [Campaign.isIdle, stage] at idles

theorem advances_notice (h : t.notice = some t') : Advances grain t .notice t' := by
  unfold Minuted.notice at h
  split at h
  case isFalse => cases h
  case isTrue possible =>
    obtain ⟨cancelled, idles⟩ := possible
    obtain rfl := Option.some.inj h
    simpa [cancel_eq cancelled idles, Campaign.marksOfOutcome, Campaign.outcome?] using
      @Advances.noticed grain t cancelled idles

theorem advances_of_step (h : t.step grain event = some t') :
    t.crash = none ∧ Advances grain t event t' := by
  unfold Minuted.step at h
  split at h
  case isTrue => cases h
  case isFalse alive =>
    refine ⟨by simpa using alive, ?_⟩
    cases event with
    | pass now => exact advances_pass h
    | answer answer => exact advances_answer h
    | wake clock => exact advances_wake h
    | cancel => exact advances_cancel h
    | notice => exact advances_notice h

/-! ### Events that are possible -/

theorem step_pass {now : Instant} (alive : t.crash = none) (later : t.now ≤ now)
    (whole : grain ∣ now) (early : ∀ fires, t.campaign.timer? = some fires → now ≤ fires) :
    t.step grain (.pass now) = some { t with now := now } := by
  have before : t.campaign.timer?.all (now ≤ ·) = true := by
    cases timer : t.campaign.timer? with
    | none => rfl
    | some fires => simpa using early fires timer
  simp [Minuted.step, Minuted.pass, alive, later, whole, before]

theorem exists_wake (alive : t.crash = none) (due : t.campaign.isDue t.now = true)
    (clock : { t : Timestamp // t.IsValid }) : ∃ t', t.step grain (.wake clock) = some t' := by
  have wakes : t.step grain (.wake clock) = t.wake clock := by simp [Minuted.step, alive]
  exact ⟨_, wakes.trans (if_pos due)⟩

/-! ### The dates of the minutes -/

/-- Whether minutes were taken one after the other by a clock that now shows `now`. -/
structure Dated (grain : Nat) (minutes : List Mark) (now : Instant) : Prop where
  ordered : minutes.Pairwise fun later earlier => earlier.now ≤ later.now
  past : ∀ mark ∈ minutes, mark.now ≤ now
  whole : ∀ mark ∈ minutes, grain ∣ mark.now
  shown : grain ∣ now

namespace Dated

variable {minutes : List Mark} {now later : Instant}

theorem pass (h : Dated grain minutes now) (passes : now ≤ later) (shown : grain ∣ later) :
    Dated grain minutes later :=
  ⟨h.ordered, fun mark taken => Nat.le_trans (h.past mark taken) passes, h.whole, shown⟩

theorem note (h : Dated grain minutes now) {mark : Mark} (dated : mark.now = now) :
    Dated grain (mark :: minutes) now := by
  refine ⟨List.pairwise_cons.2 ⟨fun earlier taken => ?_, h.ordered⟩, ?_, ?_, h.shown⟩
  · rw [dated]
    exact h.past earlier taken
  · exact List.forall_mem_cons.2 ⟨Nat.le_of_eq dated, h.past⟩
  · exact List.forall_mem_cons.2 ⟨dated ▸ h.shown, h.whole⟩

theorem note_outcome (h : Dated grain minutes now) (c : Campaign) :
    Dated grain (c.marksOfOutcome now ++ minutes) now := by
  unfold Campaign.marksOfOutcome
  cases c.outcome? with
  | none => exact h
  | some outcome => exact h.note rfl

theorem advance (h : Dated grain t.minutes t.now) (advances : Advances grain t event t') :
    Dated grain t'.minutes t'.now := by
  cases advances with
  | passed later whole early => exact h.pass later whole
  | crashed waits crashes => exact h
  | sent waits write advances => exact h.note rfl
  | ended held waits advances is_held => exact (h.note rfl).note_outcome _
  | retried pauses due => exact h.note rfl
  | opened rests due => exact (h.note rfl).note rfl
  | again pauses early due => exact h.note rfl
  | lost renews closed unnoticed => exact h.note rfl
  | cancelled open_ => exact h.note rfl
  | noticed cancelled idles => exact h.note rfl

end Dated

/-- Time does not go back. -/
theorem Advances.now_le (h : Advances grain t event t') : t.now ≤ t'.now := by
  cases h with
  | passed later whole early => exact later
  | _ => exact Nat.le_refl t.now

theorem Advances.config_eq (h : Advances grain t event t') :
    t'.campaign.elector.config = t.campaign.elector.config := by
  cases h with
  | sent waits write advances =>
      exact (congrArg Elector.config (Campaign.attempting_frame waits _ _).1).trans advances.frame.2
  | ended held waits advances is_held =>
      exact (congrArg Elector.config (Campaign.conclude_frame waits _ _).1).trans advances.frame.2
  | _ => rfl

theorem Advances.remembersPast (h : Advances grain t event t')
    (past : t.campaign.elector.RemembersPast t.now) :
    t'.campaign.elector.RemembersPast t'.now := by
  cases h with
  | passed later whole early => exact past.pass later
  | sent waits write advances =>
      rw [(Campaign.attempting_frame waits _ _).1]
      exact advances.remembersPast past
  | ended held waits advances is_held =>
      rw [(Campaign.conclude_frame waits _ _).1]
      exact advances.remembersPast past
  | _ => exact past

theorem now_le_of_run {events : List Event} (run : runFrom (step grain) t events = some t') :
    t.now ≤ t'.now := by
  refine runFrom_invariant (P := fun s => t.now ≤ s.now) (fun s event s' later hs => ?_)
    (Nat.le_refl t.now) run
  exact Nat.le_trans later (advances_of_step hs).2.now_le

/-- A cancellation is never taken back. -/
theorem Advances.cancelled_mono (h : Advances grain t event t')
    (cancelled : t.campaign.cancelled = true) : t'.campaign.cancelled = true := by
  cases h with
  | sent waits write advances => exact (Campaign.attempting_frame waits _ _).2.trans cancelled
  | ended held waits advances is_held => exact (Campaign.conclude_frame waits _ _).2.trans cancelled
  | cancelled open_ => rfl
  | _ => exact cancelled

theorem Advances.uncancelled (h : Advances grain t event t')
    (after : t'.campaign.cancelled = false) : t.campaign.cancelled = false := by
  cases cancelled : t.campaign.cancelled with
  | false => rfl
  | true => exact (h.cancelled_mono cancelled).symm.trans after

end Minuted

end GatedManager.Election
