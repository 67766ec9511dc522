import GatedManager.Proofs.Election.Record
import GatedManager.Proofs.Election.Tenure

/-!
# Whether the lease outlasts the silence

A holder can be silent for as long as its rest and its window together take. The lease stays live
throughout exactly when it lasts longer than this silence and the delay of an answer. The order of
the durations that is asked of a configuration does not give that.
-/

namespace GatedManager.Election.Tenure

variable {config : Config} {delay : Duration} {t : Tenure}

/-- Whether the lease stays live as long as it is held, in every tenure with the configuration. -/
def AlwaysLive (config : Config) (delay : Duration) : Prop :=
  ∀ (elector : Elector) (cancelled : Bool) (clock : Timestamp) (start : Instant)
    (events : List Event) (t : Tenure), elector.config = config → Instant.onClock start →
    runFrom (step delay) (begin elector cancelled clock start) events = some t →
    t.isHolding → t.IsLive

theorem alwaysLive_of_lt (h : config.longestSilence + delay.nanos < config.leaseDuration.nanos) :
    AlwaysLive config delay := by
  rintro elector cancelled clock start events t rfl shown run holding
  have sound := (sound_begin shown elector cancelled clock).run run
  obtain ⟨a, -, ⟨s, hs, hle⟩, hnow⟩ := sound.holding holding
  refine ⟨s, hs, ?_⟩
  rw [sound.config]
  calc t.now
    _ ≤ a + elector.config.longestSilence := hnow
    _ ≤ s + delay.nanos + elector.config.longestSilence := Nat.add_le_add_right hle _
    _ = s + (elector.config.longestSilence + delay.nanos) := by
        rw [Nat.add_assoc, Nat.add_comm delay.nanos]
    _ < s + elector.config.leaseDuration.nanos := Nat.add_lt_add_left h s

/-- A tenure that creates the lease, gets the answer as late as possible, rests, and then hears
nothing more until its window is over. -/
def fading (clock : Timestamp) (answered rested overdue : Instant) : List Event :=
  [.answer (.read (.ok none)), .store, .pass answered, .answer (.written (.ok ())), .hold,
    .pass rested, .wake clock, .pass overdue]

theorem run_fading (elector : Elector) {clock : Timestamp} (start : Instant)
    {rested overdue : Instant} (valid : clock.IsValid) (fresh : elector.observed = none)
    (first : Instant.reaches (start + delay.nanos) elector.config.leaseDuration)
    (rest : Instant.timer (start + delay.nanos) elector.config.retryPeriod = rested)
    (window : Instant.timer rested elector.config.renewDeadline = overdue)
    (last : Instant.onClock overdue) :
    ∃ t, runFrom (step delay) (begin elector false clock start)
        (fading clock (start + delay.nanos) rested overdue) = some t ∧
      t.isHolding ∧ t.campaign.elector.config = elector.config ∧ t.ledger.latest = some start ∧
      t.now = overdue := by
  obtain ⟨record, lease, absent⟩ := elector.exists_onAbsent valid
  have answered_shown : Instant.onClock (start + delay.nanos) :=
    Instant.onClock_mono (Nat.le_add_right _ _) first
  have rest_later : start + delay.nanos ≤ rested := rest ▸ Instant.le_timer _ _
  have window_later : rested ≤ overdue := window ▸ Instant.le_timer _ _
  let owner : Elector := { elector with observed := some ⟨record, start + delay.nanos⟩ }
  let creating : Campaign := ⟨elector, false, .acquiring (.answer (.creating record lease))⟩
  have creates : step delay (begin elector false clock start) (.answer (.read (.ok none))) =
      some ⟨creating, start, {}⟩ := by
    rw [step, Tenure.answer]
    simp only [begin, Campaign.answer_absent absent]
    rfl
  have stores : step delay ⟨creating, start, {}⟩ .store =
      some ⟨creating, start, ⟨some start, 0, some start⟩⟩ := by
    simp [step, Campaign.attempt?, Ledger.store?, Attempt.isWrite, creating]
  have waits : step delay ⟨creating, start, ⟨some start, 0, some start⟩⟩
      (.pass (start + delay.nanos)) =
      some ⟨creating, start + delay.nanos, ⟨some start, 0, some start⟩⟩ := by
    simp [step, Tenure.pass, Campaign.outcome?, Campaign.timer?, creating, answered_shown]
  have wins : step delay ⟨creating, start + delay.nanos, ⟨some start, 0, some start⟩⟩
      (.answer (.written (.ok ()))) =
      some ⟨⟨owner, false, .ended .acquired⟩, start + delay.nanos, ⟨none, 0, some start⟩⟩ := by
    have proceeds : creating.answer (.written (.ok ())) (start + delay.nanos) =
        .ok ⟨owner, false, .ended .acquired⟩ :=
      Campaign.answer_created record lease fresh first false
    have in_time : Ledger.admits ⟨some start, 0, some start⟩ delay (.creating record lease)
        (.written (.ok ())) (start + delay.nanos) := by
      simp [Ledger.admits, Attempt.awaits, Attempt.isWrite]
    rw [step, Tenure.answer]
    simp only [proceeds]
    exact if_pos in_time
  have holds : step delay
      ⟨⟨owner, false, .ended .acquired⟩, start + delay.nanos, ⟨none, 0, some start⟩⟩ .hold =
      some ⟨⟨owner, false, .resting rested⟩, start + delay.nanos, ⟨none, 0, some start⟩⟩ := by
    simp [step, Tenure.hold, Campaign.hold, Campaign.pauseFrom, owner, rest]
  have rests : step delay
      ⟨⟨owner, false, .resting rested⟩, start + delay.nanos, ⟨none, 0, some start⟩⟩
      (.pass rested) =
      some ⟨⟨owner, false, .resting rested⟩, rested, ⟨none, 0, some start⟩⟩ := by
    simp [step, Tenure.pass, Campaign.outcome?, Campaign.timer?, rest_later,
      Instant.onClock_mono window_later last]
  have opens : step delay ⟨⟨owner, false, .resting rested⟩, rested, ⟨none, 0, some start⟩⟩
      (.wake clock) = some ⟨⟨owner, false, .renewing overdue (.answer (.reading clock))⟩, rested,
        ⟨none, 0, some start⟩⟩ := by
    simp [step, Tenure.wake, Campaign.timer?, Campaign.wake, Campaign.attempt?, owner, window]
  have fades : step delay ⟨⟨owner, false, .renewing overdue (.answer (.reading clock))⟩, rested,
      ⟨none, 0, some start⟩⟩ (.pass overdue) =
      some ⟨⟨owner, false, .renewing overdue (.answer (.reading clock))⟩, overdue,
        ⟨none, 0, some start⟩⟩ := by
    simp [step, Tenure.pass, Campaign.outcome?, Campaign.timer?, window_later, last]
  refine ⟨_, runFrom_step creates (runFrom_step stores (runFrom_step waits (runFrom_step wins
    (runFrom_step holds (runFrom_step rests (runFrom_step opens (runFrom_step fades
      (runFrom_nil _)))))))), rfl, rfl, rfl, rfl⟩

/-- The silence is reached: the tenure starts where the rounding of its first rest loses most. -/
theorem exists_overdue (modest : Instant.onClock
      (2 * (config.longestSilence + delay.nanos + Instant.nanosPerMilli)))
    (short : config.leaseDuration.nanos ≤ config.longestSilence + delay.nanos)
    (identity : String) (clock : Timestamp) (valid : clock.IsValid) :
    ∃ start, Instant.onClock start ∧ ∃ events t,
      runFrom (step delay) (begin ⟨identity, config, none⟩ false clock start) events = some t ∧
        t.isHolding ∧ ¬t.IsLive := by
  obtain ⟨start, start_le, rounding⟩ : ∃ start : Nat, start ≤ Instant.nanosPerMilli + 1 ∧
      (start + delay.nanos + config.retryPeriod.nanos) % Instant.nanosPerMilli = 1 := by
    simp only [Instant.nanosPerMilli]
    exact ⟨1000001 - (delay.nanos + config.retryPeriod.nanos) % 1000000, by omega, by omega⟩
  have renew_le := Instant.le_roundUpMillis config.renewDeadline.nanos
  have first : Instant.onClock (start + delay.nanos + config.leaseDuration.nanos) :=
    Instant.onClock_mono (by simp only [Instant.nanosPerMilli] at start_le ⊢; omega) modest
  have last : Instant.onClock (start + delay.nanos + config.longestSilence) :=
    Instant.onClock_mono (by simp only [Instant.nanosPerMilli] at start_le ⊢; omega) modest
  obtain ⟨-, window⟩ := Instant.timer_timer_eq (e := config.renewDeadline) rounding
    (Instant.onClock_mono (Nat.add_le_add_left (Nat.add_le_add_left renew_le _) _) last)
  obtain ⟨t, run, holding, config_eq, latest, now_eq⟩ :=
    run_fading ⟨identity, config, none⟩ start valid rfl first rfl rfl
      (window.symm ▸ last)
  refine ⟨start, Instant.onClock_mono (by omega) last, _, t, run, holding, ?_⟩
  rintro ⟨s, stored, live⟩
  obtain rfl : start = s := Option.some.inj (latest.symm.trans stored)
  rw [now_eq, config_eq, window] at live
  refine absurd live (Nat.not_lt.2 ?_)
  rw [Nat.add_assoc]
  exact Nat.add_le_add_left (by rw [Nat.add_comm]; exact short) start

/-- A holder stops before its lease can be taken when the lease lasts longer than the silence and
the delay of an answer together. When it does not, a holder can outlast its lease. -/
theorem live_while_holding (config : Config) (delay : Duration) :
    (config.longestSilence + delay.nanos < config.leaseDuration.nanos → AlwaysLive config delay) ∧
    (Instant.onClock (2 * (config.longestSilence + delay.nanos + Instant.nanosPerMilli)) →
      config.leaseDuration.nanos ≤ config.longestSilence + delay.nanos →
        ¬AlwaysLive config delay) := by
  refine ⟨alwaysLive_of_lt, ?_⟩
  intro modest short live
  obtain ⟨start, shown, events, t, run, holding, dead⟩ :=
    exists_overdue modest short "" ⟨0, 0⟩ ⟨by decide, by decide, by decide⟩
  exact dead (live _ _ _ _ events t rfl shown run holding)

/-- A configuration that is accepted although a rest and a window together outlast the lease. -/
def overstretched : Config where
  enabled := true
  leaseDuration := .ofSeconds 15
  renewDeadline := .ofSeconds 14
  retryPeriod := .ofSeconds 10
  resourceName := "manager-leader"
  resourceNamespace := "default"

/-- The order of the durations that is asked of a configuration does not keep the lease live, even
when every answer comes at once. -/
theorem overstretched_outlasts_lease :
    overstretched.validate = .ok () ∧ ¬AlwaysLive overstretched ⟨0⟩ := by
  refine ⟨rfl, ?_⟩
  intro live
  obtain ⟨start, shown, events, t, run, holding, dead⟩ :=
    @exists_overdue overstretched ⟨0⟩ (by decide) (by decide) "" ⟨0, 0⟩
      ⟨by decide, by decide, by decide⟩
  exact dead (live _ _ _ _ events t rfl shown run holding)

end GatedManager.Election.Tenure
