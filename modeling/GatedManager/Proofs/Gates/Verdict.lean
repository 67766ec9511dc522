import GatedManager.Proofs.Gates.Race
import GatedManager.Proofs.Runs
import GatedManager.Proofs.Time.Timer

/-!
# The verdict of the race

A wait for the first snapshot ends with the first of the three events that can end it, and at the
time of that event. It misses no publication, however the steps of those who publish and of the one
who waits are interleaved, and what was published once is never taken back.
-/

namespace GatedManager.Gates

open Api (FeatureGate GateDetails)

namespace Race

/-- When an event that ends a wait comes, if it has come or is sure to come. What came before the
start counts as at the start, and the deadline is where the timer of the wait fires. -/
def occurs? (r : Race) (start : Instant) (timeout : Duration) : Racer → Option Instant
  | .observation => r.observed.map (max start)
  | .cancellation => r.cancelled.map (max start)
  | .deadline => some (Instant.timer start timeout)

/-- Whether the event comes from outside of the race. -/
def Event.isOutside : Event → Bool
  | sync _ _ => true
  | cancel => true
  | begin _ => true
  | _ => false

/-- The steps with which a race goes on by itself. -/
def goOn : Race → Event → Option Race := barring step fun _ event => event.isOutside

/-- However the race goes on by itself, its wait ends. -/
inductive Ends : Race → Prop
  | ended {r : Race} {start : Instant} {timeout : Duration} {outcome : WaitResult}
      (stage : r.stage = .ended start timeout outcome) : Ends r
  | next {r : Race} (possible : ∃ event r', r.goOn event = some r')
      (later : ∀ event r', r.goOn event = some r' → Ends r') : Ends r

variable {r r' : Race} {event : Event} {start : Instant} {timeout : Duration}
  {receiver : Receiver} {outcome : WaitResult}

/-! ### What a step keeps -/

theorem eq_some_or_eq_now {first : Option Instant} {now t : Instant}
    (h : first.or (some now) = some t) : first = some t ∨ t = now :=
  (Option.or_eq_some_iff.1 h).imp_right fun unset => (Option.some.inj unset.2).symm

theorem now_le_of_step (h : r.step event = some r') : r.now ≤ r'.now := by
  cases proceeds_of_step h with
  | passed later => exact Nat.le_of_lt later
  | _ => exact Nat.le_refl _

/-- What has come stays, and what comes is not before its time. -/
theorem occurs?_of_step {racer : Racer} {t : Instant} (h : r.step event = some r')
    (occurs : r'.occurs? start timeout racer = some t) :
    r.occurs? start timeout racer = some t ∨ r.now ≤ t := by
  cases proceeds_of_step h with
  | publication =>
      cases racer with
      | observation =>
          obtain ⟨o, is_observed, rfl⟩ := Option.map_eq_some_iff.1 occurs
          rcases eq_some_or_eq_now is_observed with before | rfl
          · exact .inl (by simp [occurs?, before])
          · exact .inr (Nat.le_max_right _ _)
      | _ => exact .inl occurs
  | cancelled =>
      cases racer with
      | cancellation =>
          obtain ⟨c, is_cancelled, rfl⟩ := Option.map_eq_some_iff.1 occurs
          rcases eq_some_or_eq_now is_cancelled with before | rfl
          · exact .inl (by simp [occurs?, before])
          · exact .inr (Nat.le_max_right _ _)
      | _ => exact .inl occurs
  | _ => exact .inl occurs

theorem occurs?_stays {racer : Racer} {t : Instant} (h : r.step event = some r')
    (occurs : r.occurs? start timeout racer = some t) :
    r'.occurs? start timeout racer = some t := by
  cases proceeds_of_step h with
  | publication =>
      cases racer with
      | observation =>
          obtain ⟨o, is_observed, rfl⟩ := Option.map_eq_some_iff.1 occurs
          simp [occurs?, is_observed]
      | _ => exact occurs
  | cancelled =>
      cases racer with
      | cancellation =>
          obtain ⟨c, is_cancelled, rfl⟩ := Option.map_eq_some_iff.1 occurs
          simp [occurs?, is_cancelled]
      | _ => exact occurs
  | _ => exact occurs

/-- No publication was missed. A receiver that has found nothing has done so when nothing was
published, and one that sleeps has been notified of any later publication or still will be. -/
def Heard (r : Race) : Receiver → Prop
  | .looking => True
  | .missed seen => seen = 0
  | .registered seen _ => seen = 0
  | .asleep seen notified => seen = 0 ∧ (r.published ≠ 0 → r.due ≠ 0 ∨ notified = true)

/-- What is known while the wait goes on: no event has been passed over. -/
structure Awaits (r : Race) (start : Instant) (timeout : Duration) (receiver : Receiver) :
    Prop where
  begun : start ≤ r.now
  prompt : ∀ racer t, r.occurs? start timeout racer = some t → r.now ≤ t
  heard : r.Heard receiver

/-- What is known when the wait has ended: it did so with an event, and none was earlier. -/
structure Decided (r : Race) (start : Instant) (timeout : Duration) (outcome : WaitResult) :
    Prop where
  past : outcome.at_ ≤ r.now
  named : ∃ racer, r.occurs? start timeout racer = some outcome.at_ ∧
    outcome.result = racer.result
  earliest : ∀ racer t, r.occurs? start timeout racer = some t → outcome.at_ ≤ t

/-- What is known of a race at any time. -/
structure Sound (r : Race) : Prop where
  known : r.access.isObserved = r.observed.isSome
  counted : r.published = 0 ↔ r.observed = none
  observed_past : ∀ o, r.observed = some o → o ≤ r.now
  cancelled_past : ∀ c, r.cancelled = some c → c ≤ r.now
  waiting : ∀ start timeout receiver, r.stage = .waiting start timeout receiver →
    r.Awaits start timeout receiver
  ended : ∀ start timeout outcome, r.stage = .ended start timeout outcome →
    r.Decided start timeout outcome

theorem known_of_step (h : r.access.isObserved = r.observed.isSome)
    (hs : r.step event = some r') : r'.access.isObserved = r'.observed.isSome := by
  cases proceeds_of_step hs with
  | publication _ _ known => simpa using known
  | _ => exact h

theorem counted_of_step (h : r.published = 0 ↔ r.observed = none) (hs : r.step event = some r') :
    r'.published = 0 ↔ r'.observed = none := by
  cases proceeds_of_step hs with
  | publication => simp
  | _ => exact h

theorem observed_of_step (h : ∀ o, r.observed = some o → o ≤ r.now)
    (hs : r.step event = some r') : ∀ o, r'.observed = some o → o ≤ r'.now := by
  intro o is_observed
  refine Nat.le_trans ?_ (now_le_of_step hs)
  cases proceeds_of_step hs with
  | publication =>
      rcases eq_some_or_eq_now is_observed with before | rfl
      · exact h o before
      · exact Nat.le_refl _
  | _ => exact h o is_observed

theorem cancelled_of_step (h : ∀ c, r.cancelled = some c → c ≤ r.now)
    (hs : r.step event = some r') : ∀ c, r'.cancelled = some c → c ≤ r'.now := by
  intro c is_cancelled
  refine Nat.le_trans ?_ (now_le_of_step hs)
  cases proceeds_of_step hs with
  | cancelled =>
      rcases eq_some_or_eq_now is_cancelled with before | rfl
      · exact h c before
      · exact Nat.le_refl _
  | _ => exact h c is_cancelled

/-- Whoever waits in quiet has not missed an event. -/
theorem Awaits.quiet {now : Instant} (h : r.Awaits start timeout receiver) (sound : r.Sound)
    (waiting : r.stage = .waiting start timeout receiver) (quiet : r.isQuietUntil now) :
    r.observed = none ∧ r.cancelled = none ∧ now ≤ Instant.timer start timeout := by
  obtain ⟨settled, ⟨idle, uncancelled⟩, in_time⟩ :
      r.due = 0 ∧ (receiver.isIdle ∧ r.cancelled = none) ∧ now ≤ Instant.timer start timeout := by
    simpa [isQuietUntil, waiting] using quiet
  refine ⟨sound.counted.1 ?_, uncancelled, in_time⟩
  have heard := h.heard
  -- only a sleeper is idle, and one that nobody still has to notify
  cases receiver with
  | asleep seen notified =>
      obtain rfl : notified = false := by simpa [Receiver.isIdle] using idle
      by_contra some_published
      simpa [settled] using heard.2 some_published
  | _ => simp [Receiver.isIdle] at idle

/-- The events that come while the wait goes on do not come before the time that has been
reached. -/
theorem Awaits.prompt_after (h : r.Awaits start timeout receiver) (hs : r.step event = some r')
    (same : r'.now = r.now) :
    ∀ racer t, r'.occurs? start timeout racer = some t → r'.now ≤ t := by
  intro racer t occurs
  rw [same]
  rcases occurs?_of_step hs occurs with before | later
  · exact h.prompt racer t before
  · exact later

theorem heard_notify {due : Nat} {stage : RaceStage} (h : r.Heard receiver) :
    Heard { r with due := due, stage := stage } receiver.notify := by
  cases receiver with
  | looking => trivial
  | missed seen => exact h
  | registered seen notified => exact h
  | asleep seen notified => exact ⟨h.1, fun _ => .inr rfl⟩

theorem Awaits.turn {receiver' : Receiver} {stage : RaceStage}
    (h : r.Awaits start timeout receiver) (heard : r.Heard receiver') :
    Awaits { r with stage := stage } start timeout receiver' :=
  ⟨h.begun, h.prompt, heard⟩

theorem awaits_of_step (h : r.Sound) (hs : r.step event = some r')
    (waiting : r'.stage = .waiting start timeout receiver) :
    r'.Awaits start timeout receiver := by
  have prompt := fun receiver (before : r.stage = .waiting start timeout receiver) =>
    (h.waiting start timeout receiver before).prompt_after hs
  cases proceeds_of_step hs with
  | @passed now later quiet =>
      have before := h.waiting start timeout receiver waiting
      obtain ⟨unobserved, uncancelled, in_time⟩ := before.quiet h waiting quiet
      refine ⟨Nat.le_trans before.begun (Nat.le_of_lt later), ?_, ?_⟩
      · intro racer t occurs
        cases racer with
        | observation => simp [occurs?, unobserved] at occurs
        | cancellation => simp [occurs?, uncancelled] at occurs
        | deadline => exact Option.some.inj occurs ▸ in_time
      · have heard := before.heard
        cases receiver <;> exact heard
  | silent => exact h.waiting start timeout receiver waiting
  | publication =>
      have before := h.waiting start timeout receiver waiting
      refine ⟨before.begun, prompt receiver waiting rfl, ?_⟩
      have heard := before.heard
      cases receiver with
      | asleep => exact ⟨heard.1, fun _ => .inl (Nat.succ_ne_zero _)⟩
      | _ => exact heard
  | cancelled =>
      have before := h.waiting start timeout receiver waiting
      refine ⟨before.begun, prompt receiver waiting rfl, ?_⟩
      have heard := before.heard
      cases receiver <;> exact heard
  | notified _ stage =>
      cases waiting
      have before := h.waiting _ _ _ stage
      exact ⟨before.begun, before.prompt, heard_notify before.heard⟩
  | unheard _ other => exact absurd waiting (other start timeout receiver)
  | begun =>
      cases waiting
      refine ⟨Nat.le_refl _, ?_, trivial⟩
      intro racer t occurs
      cases racer with
      | deadline => exact Option.some.inj occurs ▸ Instant.le_timer _ _
      | _ =>
          obtain ⟨o, -, rfl⟩ := Option.map_eq_some_iff.1 occurs
          exact Nat.le_max_left _ _
  | missed stage unknown =>
      cases waiting
      have unobserved : r.observed = none := by simpa [unknown] using h.known
      exact (h.waiting _ _ _ stage).turn (h.counted.2 unobserved)
  | registered stage =>
      cases waiting
      have before := h.waiting _ _ _ stage
      exact before.turn before.heard
  | slept stage same =>
      cases waiting
      have before := h.waiting _ _ _ stage
      -- nothing was published between the look and the registration
      exact before.turn ⟨before.heard, fun some_published =>
        absurd (same.trans before.heard) some_published⟩
  | overtaken stage =>
      cases waiting
      exact (h.waiting _ _ _ stage).turn trivial
  | woken stage =>
      cases waiting
      have before := h.waiting _ _ _ stage
      exact before.turn before.heard.1
  | found | gaveUp | timedOut => cases waiting

/-- A wait that ends with an event which has come does so at its time. -/
theorem Awaits.decided {t : Instant} {stage : RaceStage} (h : r.Awaits start timeout receiver)
    (racer : Racer) (occurs : r.occurs? start timeout racer = some t)
    (past : t ≤ r.now) :
    Decided { r with stage := stage } start timeout ⟨racer.result, r.now⟩ := by
  obtain rfl : t = r.now := Nat.le_antisymm past (h.prompt racer t occurs)
  exact ⟨Nat.le_refl _, ⟨racer, occurs, rfl⟩, h.prompt⟩

/-- What comes after the end of a wait comes too late for it. -/
theorem Decided.step (h : r.Decided start timeout outcome) (hs : r.step event = some r') :
    r'.Decided start timeout outcome := by
  obtain ⟨racer, occurs, named⟩ := h.named
  refine ⟨Nat.le_trans h.past (now_le_of_step hs), ⟨racer, occurs?_stays hs occurs, named⟩, ?_⟩
  intro other t occurs
  rcases occurs?_of_step hs occurs with before | later
  · exact h.earliest other t before
  · exact Nat.le_trans h.past later

theorem decided_of_step (h : r.Sound) (hs : r.step event = some r')
    (ended : r'.stage = .ended start timeout outcome) : r'.Decided start timeout outcome := by
  have later := fun (before : r.stage = .ended start timeout outcome) =>
    (h.ended start timeout outcome before).step hs
  cases proceeds_of_step hs with
  | found stage known =>
      cases ended
      have before := h.waiting _ _ _ stage
      obtain ⟨o, is_observed⟩ := Option.isSome_iff_exists.1 (h.known ▸ known)
      exact before.decided .observation (by simp [occurs?, is_observed])
        (Nat.max_le.2 ⟨before.begun, h.observed_past o is_observed⟩)
  | gaveUp stage is_cancelled =>
      cases ended
      have before := h.waiting _ _ _ stage
      obtain ⟨c, is_cancelled⟩ := Option.isSome_iff_exists.1 is_cancelled
      exact before.decided .cancellation (by simp [occurs?, is_cancelled])
        (Nat.max_le.2 ⟨before.begun, h.cancelled_past c is_cancelled⟩)
  | timedOut stage due =>
      cases ended
      exact (h.waiting _ _ _ stage).decided .deadline rfl due
  | passed | silent | publication | unheard | cancelled => exact later ended
  | notified | begun | missed | registered | slept | overtaken | woken => cases ended

theorem Sound.step (h : r.Sound) (hs : r.step event = some r') : r'.Sound where
  known := known_of_step h.known hs
  counted := counted_of_step h.counted hs
  observed_past := observed_of_step h.observed_past hs
  cancelled_past := cancelled_of_step h.cancelled_past hs
  waiting := fun _ _ _ waiting => awaits_of_step h hs waiting
  ended := fun _ _ _ ended => decided_of_step h hs ended

/-- The gates that a cluster lists for one version. -/
def detailsOf (version : String) : GateDetails := ⟨version, [migrationGate], []⟩

/-- What has become of the race then. -/
def narrow : Race where
  access := ⟨"4.16.0", unknownVersion, some (.ofDetails (detailsOf "4.16.0"))⟩
  now := 61000000000
  published := 1
  observed := some 59000000000
  cancelled := some 61000000000
  stage := .ended 0 waitLimit ⟨.ok (), 59000000000⟩

end Race

end GatedManager.Gates
