import GatedManager.Proofs.Election.Minutes
import GatedManager.Proofs.Time.Timer

/-!
# What a cancellation stops

A campaign looks at its cancellation while it pauses or rests. An attempt that is under way goes on,
and with it the campaign, until the attempt ends or the deadline of its window passes. So there are
two things that a cancellation need not stop.

The attempt writes the lease when it has not done so yet. It is the only one to do so, and nothing
is written when the cancellation finds no attempt that still reads.

The window may end before the attempt. Then the lease of a holder counts as lost although the holder
was to release it.
-/

namespace GatedManager.Election

def Mark.isCancelled : Mark → Bool
  | cancelled _ => true
  | _ => false

namespace Campaign

variable {c : Campaign} {attempt : Attempt}

theorem isIdle_attempting (waits : c.attempt? = some attempt) (elector : Elector)
    (next : Attempt) : (c.attempting elector next).isIdle = false := by
  rcases attempt?_eq_some_iff.1 waits with stage | ⟨deadline, stage⟩ <;>
    simp [attempting, isIdle, stage]

/-- A campaign that has been cancelled ends with its attempt. -/
theorem isIdle_conclude (waits : c.attempt? = some attempt) (cancelled : c.cancelled = true)
    (elector : Elector) (held : Bool) {now : Instant} :
    (c.conclude elector held now).isIdle = false := by
  rcases attempt?_eq_some_iff.1 waits with stage | ⟨deadline, stage⟩ <;>
    cases held <;> simp [conclude, isIdle, stage, cancelled]

end Campaign

namespace Minuted

/-- Whether the deadline of a window has passed. -/
def isOver (t : Minuted) : Bool :=
  match t.campaign.stage with
  | .renewing deadline _ => deadline ≤ t.now
  | _ => false

/-- The events that overlook a cancellation: it comes while an attempt reads the lease, or the end
of a pause comes before the campaign has taken notice of it. -/
def overlooks (t : Minuted) : Event → Bool
  | .cancel => t.isReading
  | .wake _ => t.campaign.cancelled && t.campaign.isIdle && !t.isOver
  | _ => false

/-- The events that override a cancellation: the deadline of a window has passed. -/
def overrides (t : Minuted) : Event → Bool
  | .wake _ => t.campaign.cancelled && t.isOver
  | _ => false

/-- How many writes have been sent after the cancellation. -/
def lateWrites : List Mark → Nat
  | [] => 0
  | .sent _ :: earlier => lateWrites earlier + if earlier.any Mark.isCancelled then 1 else 0
  | _ :: earlier => lateWrites earlier

/-- How a campaign begins. It may have been cancelled before. -/
inductive Beginning
  | acquire (elector : Elector) (cancelled : Bool) (clock : { t : Timestamp // t.IsValid })
      (now : Instant)
  | hold (elector : Elector) (cancelled : Bool) (now : Instant)

namespace Beginning

def start : Beginning → Minuted
  | acquire elector cancelled clock now => .acquire elector cancelled clock now
  | hold elector cancelled now => .hold elector cancelled now

/-- Whether a campaign begins with an attempt although it was cancelled before. -/
def isLate : Beginning → Bool
  | acquire _ cancelled _ _ => cancelled
  | hold _ _ _ => false

end Beginning

variable {grain : Nat} {t t' : Minuted} {event : Event}

/-! ### The cancellation and the attempts in the minutes -/

theorem any_isCancelled_outcome (c : Campaign) (now : Instant) (minutes : List Mark) :
    (c.marksOfOutcome now ++ minutes).any Mark.isCancelled = minutes.any Mark.isCancelled := by
  unfold Campaign.marksOfOutcome
  cases c.outcome? <;> rfl

@[simp] theorem lateWrites_outcome (c : Campaign) (now : Instant) (minutes : List Mark) :
    lateWrites (c.marksOfOutcome now ++ minutes) = lateWrites minutes := by
  unfold Campaign.marksOfOutcome
  cases c.outcome? <;> rfl

/-- What holds at any time of a campaign. -/
structure Recorded (t : Minuted) : Prop where
  cancelled : t.minutes.any Mark.isCancelled = t.campaign.cancelled
  clock : ∀ clock, t.campaign.attempt? = some (.reading clock) → clock.IsValid

theorem Recorded.advance (h : Recorded t) (advances : Advances grain t event t') :
    Recorded t' := by
  cases advances with
  | passed later whole early => exact ⟨h.cancelled, h.clock⟩
  | crashed waits crashes => exact ⟨h.cancelled, h.clock⟩
  | sent waits write advances =>
      refine ⟨?_, fun clock reads => ?_⟩
      · exact h.cancelled.trans (Campaign.attempting_frame waits _ _).2.symm
      · obtain rfl := Option.some.inj ((Campaign.attempt?_attempting waits _ _).symm.trans reads)
        cases write
  | ended held waits advances is_held =>
      refine ⟨?_, fun clock reads => ?_⟩
      · rw [any_isCancelled_outcome, (Campaign.conclude_frame waits _ _).2]
        exact h.cancelled
      · cases (Campaign.attempt?_conclude waits _ _).symm.trans reads
  | @retried clock wake pauses due =>
      refine ⟨h.cancelled, ?_⟩
      rintro _ ⟨⟩
      exact clock.2
  | @opened clock wake rests due =>
      refine ⟨h.cancelled, ?_⟩
      rintro _ ⟨⟩
      exact clock.2
  | @again clock deadline wake pauses early due =>
      refine ⟨h.cancelled, ?_⟩
      rintro _ ⟨⟩
      exact clock.2
  | lost renews closed unnoticed => exact ⟨h.cancelled, nofun⟩
  | cancelled open_ => exact ⟨rfl, h.clock⟩
  | noticed cancelled idles => exact ⟨h.cancelled, nofun⟩

theorem recorded_start (b : Beginning) : Recorded b.start := by
  cases b with
  | acquire elector cancelled clock now =>
      refine ⟨by cases cancelled <;> rfl, ?_⟩
      rintro _ ⟨⟩
      exact clock.2
  | hold elector cancelled now => cases cancelled <;> exact ⟨rfl, nofun⟩

theorem Recorded.run {events : List Event} (h : Recorded t)
    (run : runFrom (step grain) t events = some t') : Recorded t' :=
  runFrom_invariant (fun _ _ _ h hs => h.advance (advances_of_step hs).2) h run

/-! ### Writes after the cancellation -/

/-- Whether a campaign has heeded its cancellation: it has written nothing since, and no attempt is
about to. -/
structure Heeds (t : Minuted) : Prop where
  recorded : Recorded t
  silent : lateWrites t.minutes = 0
  idle : t.campaign.cancelled → t.isReading = false

/-- The end of a pause is heeded only before the cancellation. -/
theorem uncancelled_of_heeds {clock : { t : Timestamp // t.IsValid }}
    (heeds : overlooks t (.wake clock) = false) (idles : t.campaign.isIdle)
    (open_ : t.isOver = false) : t.campaign.cancelled = false := by
  simpa [overlooks, idles, open_] using heeds

theorem Heeds.step (h : Heeds t)
    (hs : barring (Minuted.step grain) overlooks t event = some t') : Heeds t' := by
  obtain ⟨heeds, hs⟩ := barring_eq_some_iff.1 hs
  obtain ⟨-, advances⟩ := advances_of_step hs
  refine ⟨h.recorded.advance advances, ?_, ?_⟩
  · cases advances with
    | sent waits write advances =>
        have uncancelled : t.campaign.cancelled = false := by
          cases cancelled : t.campaign.cancelled with
          | false => rfl
          | true =>
              have reads := isReading_iff.2 ⟨_, waits⟩
              exact absurd reads (by simp [h.idle cancelled])
        simp [lateWrites, h.silent, h.recorded.cancelled, uncancelled]
    | ended held waits advances is_held => simpa [lateWrites] using h.silent
    | _ => exact h.silent
  · cases advances with
    | passed later whole early => exact h.idle
    | crashed waits crashes => exact h.idle
    | sent waits write advances =>
        intro _
        simp [isReading, Campaign.attempt?_attempting waits, write]
    | ended held waits advances is_held =>
        intro _
        simp [isReading, Campaign.attempt?_conclude waits]
    | retried pauses due =>
        have idles : t.campaign.isIdle := by simp [Campaign.isIdle, pauses]
        exact fun cancelled => absurd cancelled
          (by simp [uncancelled_of_heeds heeds idles (by simp [isOver, pauses])])
    | opened rests due =>
        have idles : t.campaign.isIdle := by simp [Campaign.isIdle, rests]
        exact fun cancelled => absurd cancelled
          (by simp [uncancelled_of_heeds heeds idles (by simp [isOver, rests])])
    | again pauses early due =>
        have idles : t.campaign.isIdle := by simp [Campaign.isIdle, pauses]
        exact fun cancelled => absurd cancelled
          (by simp [uncancelled_of_heeds heeds idles (by simpa [isOver, pauses] using early)])
    | lost renews closed unnoticed => exact fun _ => rfl
    | cancelled open_ => exact fun _ => heeds
    | noticed cancelled idles => exact fun _ => rfl

theorem heeds_start {b : Beginning} (prompt : b.isLate = false) : Heeds b.start := by
  refine ⟨recorded_start b, ?_, ?_⟩
  · cases b with
    | acquire elector cancelled clock now => cases cancelled <;> rfl
    | hold elector cancelled now => cases cancelled <;> rfl
  · cases b with
    | acquire elector cancelled clock now =>
        obtain rfl : cancelled = false := prompt
        nofun
    | hold elector cancelled now => cases cancelled <;> exact fun _ => rfl

/-- Whether a campaign has written after its cancellation, and then only with the attempt that is
open or with the last one it had. -/
def WritesOnce (t : Minuted) : Prop :=
  lateWrites t.minutes = 0 ∨
    lateWrites t.minutes = 1 ∧ t.campaign.cancelled ∧ t.isReading = false ∧
      t.campaign.isIdle = false

theorem writesOnce_start (b : Beginning) : WritesOnce b.start := by
  cases b with
  | acquire elector cancelled clock now => cases cancelled <;> exact .inl rfl
  | hold elector cancelled now => cases cancelled <;> exact .inl rfl

theorem WritesOnce.silent (h : WritesOnce t) (goes_on : t.isReading ∨ t.campaign.isIdle) :
    lateWrites t.minutes = 0 := by
  rcases h with silent | ⟨-, -, reads, idles⟩
  · exact silent
  · rw [reads, idles] at goes_on
    simp at goes_on

theorem WritesOnce.advance (h : WritesOnce t) (recorded : Recorded t)
    (advances : Advances grain t event t') : WritesOnce t' := by
  cases advances with
  | passed later whole early => exact h
  | crashed waits crashes => exact h
  | sent waits write advances =>
      have silent := h.silent (.inl (isReading_iff.2 ⟨_, waits⟩))
      have frame := Campaign.attempting_frame waits
      cases cancelled : t.campaign.cancelled with
      | false => exact .inl (by simp [lateWrites, silent, recorded.cancelled, cancelled])
      | true =>
          refine .inr ⟨by simp [lateWrites, silent, recorded.cancelled, cancelled], ?_, ?_, ?_⟩
          · exact (frame _ _).2.trans cancelled
          · simp [isReading, Campaign.attempt?_attempting waits, write]
          · exact Campaign.isIdle_attempting waits _ _
  | ended held waits advances is_held =>
      rcases h with silent | ⟨once, cancelled, -, -⟩
      · exact .inl (by simpa [lateWrites] using silent)
      · refine .inr ⟨by simpa [lateWrites] using once, ?_, ?_, ?_⟩
        · exact (Campaign.conclude_frame waits _ _).2.trans cancelled
        · simp [isReading, Campaign.attempt?_conclude waits]
        · exact Campaign.isIdle_conclude waits cancelled _ _
  | retried pauses due => exact .inl (h.silent (.inr (by simp [Campaign.isIdle, pauses])))
  | opened rests due => exact .inl (h.silent (.inr (by simp [Campaign.isIdle, rests])))
  | again pauses early due => exact .inl (h.silent (.inr (by simp [Campaign.isIdle, pauses])))
  | lost renews closed unnoticed =>
      rcases h with silent | ⟨once, cancelled, -, -⟩
      · exact .inl silent
      · exact .inr ⟨once, cancelled, rfl, rfl⟩
  | cancelled open_ =>
      rcases h with silent | ⟨once, -, reads, idles⟩
      · exact .inl silent
      · exact .inr ⟨once, rfl, reads, idles⟩
  | noticed cancelled idles => exact .inl (h.silent (.inr idles))

/-- Whether an answer can make a campaign write after its cancellation. -/
def CanWriteLate (grain : Nat) (t : Minuted) : Prop :=
  ∃ answer t', t.step grain (.answer answer) = some t' ∧ 0 < lateWrites t'.minutes

/-- An attempt that reads is answered that there is no lease, and creates it. -/
theorem canWriteLate_of_reads (recorded : Recorded t) (alive : t.crash = none)
    (cancelled : t.campaign.cancelled = true) (reads : t.isReading) : CanWriteLate grain t := by
  obtain ⟨clock, waits⟩ := isReading_iff.1 reads
  obtain ⟨record, lease, creates⟩ :=
    t.campaign.elector.exists_onAbsent (recorded.clock clock waits)
  let next := Attempt.creating record lease
  have open_ : (t.campaign.attempting t.campaign.elector next).outcome? = none := by
    rcases Campaign.attempt?_eq_some_iff.1 waits with stage | ⟨deadline, stage⟩ <;>
      simp [Campaign.attempting, stage, Campaign.outcome?]
  have answers : t.step grain (.answer (.read (.ok none))) = some { t with
      campaign := t.campaign.attempting t.campaign.elector next
      minutes := .sent t.now :: t.minutes } := by
    simp [Minuted.step, Minuted.answer, alive, waits, Attempt.awaits, Attempt.isWrite,
      Campaign.answer, Elector.advance, creates, Campaign.marksOfAnswer, Progress.marks,
      Campaign.marksOfOutcome, open_, next]
  exact ⟨_, _, answers, by simp [lateWrites, recorded.cancelled, cancelled]⟩

theorem canWriteLate_of_overlooks (recorded : Recorded t) (overlooked : t.overlooks event)
    (hs : t.step grain event = some t') : CanWriteLate grain t' := by
  obtain ⟨alive, advances⟩ := advances_of_step hs
  refine canWriteLate_of_reads (recorded.advance advances) ?_ ?_ ?_
  · cases advances with
    | crashed waits crashes => cases overlooked
    | _ => exact alive
  · cases event with
    | cancel => cases advances with | cancelled open_ => rfl
    | wake clock =>
        refine advances.cancelled_mono ?_
        simp only [overlooks, Bool.and_eq_true] at overlooked
        exact overlooked.1.1
    | pass now => cases overlooked
    | answer answer => cases overlooked
    | notice => cases overlooked
  · cases advances with
    | cancelled open_ => exact overlooked
    | retried pauses due => rfl
    | opened rests due => rfl
    | again pauses early due => rfl
    | lost renews closed unnoticed => simp [overlooks, isOver, renews, closed] at overlooked
    | passed later whole early => cases overlooked
    | crashed waits crashes => cases overlooked
    | sent waits write advances => cases overlooked
    | ended held waits advances is_held => cases overlooked
    | noticed cancelled idles => cases overlooked

/-- A campaign that overlooks its cancellation nowhere writes nothing after it. Any other one writes
once at most. Wherever the cancellation is overlooked, a write can come after it. -/
theorem writes_nothing_late (grain : Nat) (b : Beginning) :
    (b.isLate = false → ∀ events t,
      runFrom (barring (step grain) overlooks) b.start events = some t →
      lateWrites t.minutes = 0) ∧
    (∀ events t, runFrom (step grain) b.start events = some t → lateWrites t.minutes ≤ 1) ∧
    (b.isLate → CanWriteLate grain b.start) ∧
    ∀ events t event t', runFrom (step grain) b.start events = some t → t.overlooks event →
      t.step grain event = some t' → CanWriteLate grain t' := by
  refine ⟨?_, ?_, ?_, ?_⟩
  · intro prompt events t run
    exact (runFrom_invariant (fun _ _ _ h hs => Heeds.step h hs) (heeds_start prompt) run).silent
  · intro events t run
    have both : Recorded t ∧ WritesOnce t := by
      refine runFrom_invariant (P := fun t => Recorded t ∧ WritesOnce t) ?_
        ⟨recorded_start b, writesOnce_start b⟩ run
      rintro s event s' ⟨recorded, once⟩ hs
      obtain ⟨-, advances⟩ := advances_of_step hs
      exact ⟨recorded.advance advances, once.advance recorded advances⟩
    rcases both.2 with silent | ⟨once, -⟩
    · simp [silent]
    · simp [once]
  · intro late
    cases b with
    | acquire elector cancelled clock now =>
        exact canWriteLate_of_reads (recorded_start _) rfl late rfl
    | hold elector cancelled now => cases late
  · intro events t event t' run overlooked hs
    exact canWriteLate_of_overlooks ((recorded_start b).run run) overlooked hs

/-- A lease of the holder itself. -/
def ownLease : Api.Lease := ⟨{}, some ⟨none, some "first", none, none, none⟩⟩

/-- A holder is cancelled while an attempt reads its lease. -/
def slowRead : List Event :=
  [.pass 2000000000, .wake (Timestamp.ofUnix 2), .pass 2500000000, .cancel,
    .pass 3000000000, .answer (.read (.ok (some ownLease)))]

theorem slow_read_writes :
    ¬∀ events t, runFrom (step 1) (Beginning.hold ⟨"first", {}, none⟩ false 0).start events =
        some t →
      lateWrites t.minutes = 0 := by
  intro silent
  have writes : (runFrom (step 1) (Beginning.hold ⟨"first", {}, none⟩ false 0).start slowRead).map
      (lateWrites ·.minutes) = some 1 := by
    decide +kernel
  obtain ⟨t, run, once⟩ := Option.map_eq_some_iff.1 writes
  exact absurd (silent _ t run) (by simp [once])

/-! ### A loss after the cancellation -/

/-- The stages of a holder. Its windows are not over. -/
inductive Holds (now : Instant) : Stage → Prop
  | resting {wake : Instant} : Holds now (.resting wake)
  | renewing {deadline : Instant} {wait : Wait} (early : now ≤ deadline)
      (whole : Instant.nanosPerMilli ∣ deadline) : Holds now (.renewing deadline wait)
  | released : Holds now (.ended .released)
  | lost : Holds now (.ended .lost)

theorem Holds.of_attempt? {attempt : Attempt} (h : Holds t.now t.campaign.stage)
    (waits : t.campaign.attempt? = some attempt) :
    ∃ deadline, t.campaign.stage = .renewing deadline (.answer attempt) ∧
      t.now ≤ deadline ∧ Instant.nanosPerMilli ∣ deadline := by
  rcases Campaign.attempt?_eq_some_iff.1 waits with stage | ⟨deadline, stage⟩
  · cases stage ▸ h
  · cases stage ▸ h with
    | renewing early whole => exact ⟨deadline, stage, early, whole⟩

theorem Holds.pass {now : Instant} (h : Holds t.now t.campaign.stage)
    (early : ∀ fires, t.campaign.timer? = some fires → now ≤ fires) :
    Holds now t.campaign.stage := by
  cases stage : t.campaign.stage with
  | acquiring wait => cases stage ▸ h
  | resting wake => exact .resting
  | renewing deadline wait =>
      cases stage ▸ h with
      | renewing _ whole =>
          refine .renewing ?_ whole
          cases wait with
          | answer attempt => exact early deadline (by simp [Campaign.timer?, stage])
          | pause wake =>
              exact Nat.le_trans (early (min deadline wake) (by simp [Campaign.timer?, stage]))
                (Nat.min_le_left _ _)
  | ended outcome =>
      cases stage ▸ h with
      | released => exact .released
      | lost => exact .lost

theorem Holds.conclude {attempt : Attempt} (h : Holds t.now t.campaign.stage)
    (waits : t.campaign.attempt? = some attempt) (elector : Elector) (held : Bool) :
    Holds t.now (t.campaign.conclude elector held t.now).stage ∧
      (t.campaign.conclude elector held t.now).outcome? ≠ some .lost := by
  obtain ⟨deadline, stage, early, whole⟩ := h.of_attempt? waits
  cases cancelled : t.campaign.cancelled with
  | true =>
      simp only [Campaign.conclude, stage, cancelled, if_true]
      exact ⟨.released, by simp [Campaign.outcome?]⟩
  | false =>
      cases held with
      | true =>
          simp only [Campaign.conclude, stage, cancelled, Bool.false_eq_true, if_false, if_true]
          exact ⟨.resting, by simp [Campaign.outcome?]⟩
      | false =>
          simp only [Campaign.conclude, stage, cancelled, Bool.false_eq_true, if_false]
          exact ⟨.renewing early whole, by simp [Campaign.outcome?]⟩

theorem Holds.yields (h : Holds t.now t.campaign.stage) : yields t.campaign.stage = .released := by
  cases stage : t.campaign.stage with
  | acquiring wait => cases stage ▸ h
  | _ => rfl

theorem Holds.advance (h : Holds t.now t.campaign.stage) (advances : Advances grain t event t') :
    Holds t'.now t'.campaign.stage := by
  cases advances with
  | passed later whole early => exact h.pass early
  | crashed waits crashes => exact h
  | sent waits write advances =>
      obtain ⟨deadline, stage, early, whole⟩ := h.of_attempt? waits
      simp only [Campaign.attempting, stage]
      exact .renewing early whole
  | ended held waits advances is_held => exact (h.conclude waits _ _).1
  | retried pauses due => cases pauses ▸ h
  | opened rests due => exact .renewing (Instant.le_timer _ _) (Instant.timer_dvd _ _)
  | again pauses early due =>
      cases pauses ▸ h with
      | renewing early whole => exact .renewing early whole
  | lost renews closed unnoticed => exact .lost
  | cancelled open_ => exact h
  | noticed cancelled idles =>
      rw [h.yields]
      exact .released

theorem holds_hold (elector : Elector) (cancelled : Bool) (now : Instant) :
    Holds (hold elector cancelled now).now (hold elector cancelled now).campaign.stage := by
  cases cancelled with
  | true => exact .released
  | false => exact .resting

theorem Holds.outcome {outcome : Outcome} (h : Holds t.now t.campaign.stage)
    (ends : t.campaign.outcome? = some outcome) : outcome = .released ∨ outcome = .lost := by
  cases Campaign.outcome?_eq_some_iff.1 ends ▸ h with
  | released => exact .inl rfl
  | lost => exact .inr rfl

/-- Whether a holder has not lost the lease after its cancellation. -/
structure Unlost (t : Minuted) : Prop where
  holds : Holds t.now t.campaign.stage
  unlost : t.campaign.cancelled → t.campaign.outcome? ≠ some .lost

theorem Unlost.step (h : Unlost t)
    (hs : barring (Minuted.step grain) overrides t event = some t') : Unlost t' := by
  obtain ⟨kept, hs⟩ := barring_eq_some_iff.1 hs
  obtain ⟨-, advances⟩ := advances_of_step hs
  refine ⟨h.holds.advance advances, ?_⟩
  cases advances with
  | passed later whole early => exact h.unlost
  | crashed waits crashes => exact h.unlost
  | sent waits write advances =>
      obtain ⟨deadline, stage, -, -⟩ := h.holds.of_attempt? waits
      simp [Campaign.attempting, stage, Campaign.outcome?]
  | ended held waits advances is_held => exact fun _ => (h.holds.conclude waits _ _).2
  | retried pauses due => simp [Campaign.outcome?]
  | opened rests due => simp [Campaign.outcome?]
  | again pauses early due => simp [Campaign.outcome?]
  | lost renews closed unnoticed =>
      intro cancelled
      simp [overrides, isOver, renews, closed, show t.campaign.cancelled = true from cancelled]
        at kept
  | cancelled open_ =>
      intro _ lost
      cases open_.symm.trans lost
  | noticed cancelled idles => simp [h.holds.yields, Campaign.outcome?]

theorem unlost_hold (elector : Elector) (cancelled : Bool) (now : Instant) :
    Unlost (hold elector cancelled now) := by
  refine ⟨holds_hold elector cancelled now, ?_⟩
  cases cancelled with
  | true => nofun
  | false => nofun

theorem lost_of_overrides (overridden : t.overrides event) (hs : t.step grain event = some t') :
    t'.campaign.outcome? = some .lost := by
  obtain ⟨-, advances⟩ := advances_of_step hs
  cases advances with
  | retried pauses due => simp [overrides, isOver, pauses] at overridden
  | opened rests due => simp [overrides, isOver, rests] at overridden
  | again pauses early due =>
      simp [overrides, isOver, pauses, Nat.not_le.2 early] at overridden
  | lost renews closed unnoticed => rfl
  | passed later whole early => cases overridden
  | crashed waits crashes => cases overridden
  | sent waits write advances => cases overridden
  | ended held waits advances is_held => cases overridden
  | cancelled open_ => cases overridden
  | noticed cancelled idles => cases overridden

/-- How a holder that has been cancelled goes on. -/
structure Releases (grain : Nat) (t : Minuted) : Prop where
  /-- One that pauses or rests can release the lease at once. -/
  at_once : t.campaign.isIdle → ∃ t', t.step grain .notice = some t' ∧
    t'.campaign.outcome? = some .released
  /-- An answer ends the attempt, and the lease is released, or lets the attempt go on. -/
  after_attempt : ∀ answer t', t.step grain (.answer answer) = some t' → t'.crash = none →
    t'.campaign.attempt?.isSome ∨ t'.campaign.outcome? = some .released
  /-- The lease is lost if no answer ends the attempt before the deadline. -/
  too_late : ∀ deadline attempt, t.campaign.stage = .renewing deadline (.answer attempt) →
    grain ∣ Instant.nanosPerMilli → ∀ clock, ∃ t',
      runFrom (step grain) t [.pass deadline, .wake clock] = some t' ∧
        t'.campaign.outcome? = some .lost

theorem releases_of_holds (h : Holds t.now t.campaign.stage) (cancelled : t.campaign.cancelled)
    (alive : t.crash = none) : Releases grain t where
  at_once idles := by
    refine ⟨{ t with
      campaign := t.campaign.cancel
      minutes := t.campaign.cancel.marksOfOutcome t.now ++ t.minutes }, ?_, ?_⟩
    · simp [Minuted.step, alive, Minuted.notice, cancelled, idles]
    · simp [cancel_eq cancelled idles, h.yields, Campaign.outcome?]
  after_attempt answer t' hs alive' := by
    obtain ⟨-, advances⟩ := advances_of_step hs
    cases advances with
    | crashed waits crashes => cases alive'
    | sent waits write advances => exact .inl (by simp [Campaign.attempt?_attempting waits])
    | ended held waits advances is_held =>
        obtain ⟨deadline, stage, -, -⟩ := h.of_attempt? waits
        exact .inr (by simp [Campaign.conclude, stage, cancelled, Campaign.outcome?])
  too_late deadline attempt stage divides clock := by
    obtain ⟨early, whole⟩ : t.now ≤ deadline ∧ Instant.nanosPerMilli ∣ deadline := by
      cases stage ▸ h with
      | renewing early whole => exact ⟨early, whole⟩
    have passes : t.step grain (.pass deadline) = _ :=
      step_pass alive early (Nat.dvd_trans divides whole) (by simp [Campaign.timer?, stage])
    have due : t.campaign.isDue deadline = true := by simp [Campaign.isDue, Campaign.timer?, stage]
    obtain ⟨t', wakes⟩ := exists_wake (t := { t with now := deadline }) alive due clock
    refine ⟨t', runFrom_step passes (runFrom_step wakes (runFrom_nil t')), ?_⟩
    cases (advances_of_step wakes).2 with
    | retried pauses due => cases stage.symm.trans pauses
    | opened rests due => cases stage.symm.trans rests
    | again pauses early due => cases stage.symm.trans pauses
    | lost renews closed unnoticed => rfl

/-- A holder that is cancelled releases the lease, unless the deadline of a window overrides that.
Then the lease is lost. -/
theorem cancellation_wins (grain : Nat) (elector : Elector) (cancelled : Bool) (now : Instant) :
    (∀ events t, runFrom (barring (step grain) overrides) (hold elector cancelled now) events =
        some t → t.campaign.cancelled →
      ∀ outcome, t.campaign.outcome? = some outcome → outcome = .released) ∧
    (∀ events t event t', runFrom (step grain) (hold elector cancelled now) events = some t →
      t.overrides event → t.step grain event = some t' → t'.campaign.outcome? = some .lost) ∧
    ∀ events t, runFrom (step grain) (hold elector cancelled now) events = some t →
      t.campaign.cancelled → t.crash = none → Releases grain t := by
  have holds : ∀ events t, runFrom (step grain) (hold elector cancelled now) events = some t →
      Holds t.now t.campaign.stage := fun events t run =>
    runFrom_invariant (P := fun t => Holds t.now t.campaign.stage)
      (fun _ _ _ h hs => h.advance (advances_of_step hs).2) (holds_hold elector cancelled now) run
  refine ⟨?_, ?_, ?_⟩
  · intro events t run is_cancelled outcome ends
    have unlost : Unlost t := runFrom_invariant (fun _ _ _ h hs => Unlost.step h hs)
      (unlost_hold elector cancelled now) run
    rcases unlost.holds.outcome ends with rfl | rfl
    · rfl
    · exact absurd ends (unlost.unlost is_cancelled)
  · intro events t event t' run overridden hs
    exact lost_of_overrides overridden hs
  · intro events t run is_cancelled alive
    exact releases_of_holds (holds events t run) is_cancelled alive

/-- A holder is cancelled during an attempt that is not answered. -/
def unanswered : List Event :=
  [.pass 2000000000, .wake (Timestamp.ofUnix 2), .pass 3000000000, .cancel,
    .pass 12000000000, .wake (Timestamp.ofUnix 12)]

theorem unanswered_loses :
    ¬∀ events t, runFrom (step 1) (hold ⟨"first", {}, none⟩ false 0) events = some t →
      t.campaign.cancelled → ∀ outcome, t.campaign.outcome? = some outcome →
      outcome = .released := by
  intro releases
  have loses : (runFrom (step 1) (hold ⟨"first", {}, none⟩ false 0) unanswered).map
      (fun t => (t.campaign.cancelled, t.campaign.outcome?)) = some (true, some .lost) := by
    decide +kernel
  obtain ⟨t, run, shows⟩ := Option.map_eq_some_iff.1 loses
  obtain ⟨cancelled, lost⟩ : t.campaign.cancelled = true ∧ t.campaign.outcome? = some .lost := by
    simpa using shows
  cases releases _ t run cancelled _ lost

end Minuted

end GatedManager.Election
