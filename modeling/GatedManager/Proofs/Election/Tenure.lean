import GatedManager.Proofs.Election.Ledger
import GatedManager.Proofs.Election.Stages
import GatedManager.Proofs.Runs

/-!
# Tenures

A tenure is one elector that acquires the lease and then holds it, alone with an API server whose
answers may be late, lost or refusals. Holding follows on acquiring at once and is never
cancelled. The clock is a virtual one: it does not run past a timer that is still to fire.

A holder rests for the retry period after each answer that won the lease, and then has the renew
deadline to win it again. So the longest time for which it goes on without such an answer is the
sum of the two, with what their timers lose to rounding. Whether that is short enough for the
lease duration is settled here, for every configuration and every bound on the delay between a
write and its answer.
-/

namespace GatedManager.Election

/-- The longest time that can pass between an answer that won the lease and the end of the window
that follows it. -/
def Config.longestSilence (config : Config) : Nat :=
  config.retryPeriod.nanos + (Instant.nanosPerMilli - 1) +
    Instant.roundUpMillis config.renewDeadline.nanos

structure Tenure where
  campaign : Campaign
  now : Instant
  ledger : Ledger := {}

namespace Tenure

inductive Event
  /-- Time passes. -/
  | pass (now : Instant)
  /-- The server stores the write that waits for its answer. -/
  | store
  /-- The server stores a write that had gone astray. -/
  | storeAstray
  | answer (answer : Answer)
  /-- A timer fires. -/
  | wake (clock : Timestamp)
  /-- The campaign to acquire the lease is cancelled. -/
  | cancel
  /-- The lease was acquired, and holding it begins. -/
  | hold

/-- A tenure that begins with the first attempt to acquire the lease. -/
def begin (elector : Elector) (cancelled : Bool) (clock : Timestamp) (now : Instant) : Tenure :=
  { campaign := .acquire elector cancelled clock, now := now }

/-- Whether the lease is being held: holding has begun and has not come to an end. -/
def isHolding (t : Tenure) : Bool :=
  match t.campaign.stage with
  | .resting _ => true
  | .renewing _ _ => true
  | _ => false

/-- Whether less than the lease duration has passed since the last stored write. -/
def IsLive (t : Tenure) : Prop := t.ledger.IsLive t.campaign.elector.config.leaseDuration t.now

def pass (t : Tenure) (now : Instant) : Option Tenure :=
  if t.now ≤ now ∧ Instant.onClock now ∧ t.campaign.outcome? = none ∧
      t.campaign.timer?.all (now ≤ ·) then
    some { t with now := now }
  else none

def answer (t : Tenure) (delay : Duration) (answer : Answer) : Option Tenure :=
  match t.campaign.attempt? with
  | none => none
  | some attempt =>
    if t.ledger.admits delay attempt answer t.now then
      match t.campaign.answer answer t.now with
      | .error _ => none
      | .ok campaign => some { t with campaign := campaign, ledger := t.ledger.leave attempt }
    else none

/-- A timer fires. An attempt that was open then ends without its answer. -/
def wake (t : Tenure) (clock : Timestamp) : Option Tenure :=
  if t.campaign.timer?.any (· ≤ t.now) then
    some { t with
      campaign := t.campaign.wake t.now clock
      ledger := t.campaign.attempt?.elim t.ledger t.ledger.leave }
  else none

def cancel (t : Tenure) : Option Tenure :=
  match t.campaign.stage with
  | .acquiring _ => some { t with campaign := t.campaign.cancel }
  | _ => none

def hold (t : Tenure) : Option Tenure :=
  match t.campaign.stage with
  | .ended .acquired => some { t with campaign := .hold t.campaign.elector false t.now }
  | _ => none

/-- The tenure after an event, `none` when the event is not possible. -/
def step (delay : Duration) (t : Tenure) : Event → Option Tenure
  | .pass now => t.pass now
  | .store =>
    t.campaign.attempt?.bind fun attempt =>
      (t.ledger.store? attempt t.now).map fun ledger => { t with ledger := ledger }
  | .storeAstray => (t.ledger.storeAstray? t.now).map fun ledger => { t with ledger := ledger }
  | .answer answer => t.answer delay answer
  | .wake clock => t.wake clock
  | .cancel => t.cancel
  | .hold => t.hold

/-! ### What each event keeps -/

/-- Where a tenure stands in time: the current rest and the current window are counted from an
answer that won the lease, which the last stored write covers, and neither is over. -/
def InTime (delay : Duration) (t : Tenure) : Prop :=
  match t.campaign.stage with
  | .acquiring _ => True
  | .resting wake =>
    ∃ a ≤ t.now, t.ledger.Covers delay a ∧ t.now ≤ wake ∧
      wake = Instant.timer a t.campaign.elector.config.retryPeriod
  | .renewing deadline _ =>
    ∃ a ≤ t.now, t.ledger.Covers delay a ∧ t.now ≤ deadline ∧
      deadline = Instant.timer (Instant.timer a t.campaign.elector.config.retryPeriod)
        t.campaign.elector.config.renewDeadline
  | .ended .acquired => t.ledger.Covers delay t.now
  | .ended _ => True

structure Sound (config : Config) (delay : Duration) (t : Tenure) : Prop where
  config : t.campaign.elector.config = config
  clock : Instant.onClock t.now
  ledger : t.ledger.Sound t.now
  inTime : t.InTime delay

variable {config : Config} {delay : Duration} {t t' : Tenure}

/-- A ledger that covers at least as much is as good. -/
theorem InTime.mono_ledger {ledger : Ledger} (h : t.InTime delay)
    (covers : ∀ a ≤ t.now, t.ledger.Covers delay a → ledger.Covers delay a) :
    InTime delay { t with ledger := ledger } := by
  unfold InTime at h ⊢
  split at h
  case h_1 hs => simp [hs]
  case h_2 wake hs =>
    obtain ⟨a, ha, hc, hw⟩ := h
    simp only [hs]
    exact ⟨a, ha, covers a ha hc, hw⟩
  case h_3 deadline wait hs =>
    obtain ⟨a, ha, hc, hd⟩ := h
    simp only [hs]
    exact ⟨a, ha, covers a ha hc, hd⟩
  case h_4 hs =>
    simp only [hs]
    exact covers t.now (Nat.le_refl _) h
  case h_5 hs => simp [hs]

theorem Sound.pass {now : Instant} (h : t.Sound config delay) (hp : t.pass now = some t') :
    t'.Sound config delay := by
  unfold Tenure.pass at hp
  split at hp
  case isFalse => simp at hp
  case isTrue hg =>
    obtain ⟨hle, hclock, hout, htimer⟩ := hg
    obtain rfl := Option.some.inj hp
    refine ⟨h.config, hclock, h.ledger.pass hle, ?_⟩
    have hin := h.inTime
    unfold InTime at hin ⊢
    split at hin
    case h_1 hs => simp [hs]
    case h_2 wake hs =>
      obtain ⟨a, ha, hc, -, hw⟩ := hin
      simp only [hs]
      exact ⟨a, Nat.le_trans ha hle, hc, by simpa [Campaign.timer?, hs] using htimer, hw⟩
    case h_3 deadline wait hs =>
      obtain ⟨a, ha, hc, -, hd⟩ := hin
      have hnow : now ≤ deadline := by
        cases wait with
        | answer => simpa [Campaign.timer?, hs] using htimer
        | pause wake =>
            have : now ≤ min deadline wake := by simpa [Campaign.timer?, hs] using htimer
            exact Nat.le_trans this (Nat.min_le_left _ _)
      simp only [hs]
      exact ⟨a, Nat.le_trans ha hle, hc, hnow, hd⟩
    case h_4 hs => simp [Campaign.outcome?, hs] at hout
    case h_5 hs => simp [hs]

theorem Sound.answer {answer : Answer} (h : t.Sound config delay)
    (hp : t.answer delay answer = some t') : t'.Sound config delay := by
  unfold Tenure.answer at hp
  split at hp
  case h_1 => simp at hp
  case h_2 attempt ha =>
    split at hp
    case isFalse => simp at hp
    case isTrue hadmits =>
      split at hp
      case h_1 => simp at hp
      case h_2 campaign hc =>
        obtain rfl := Option.some.inj hp
        have hconfig := Campaign.answer_config hc
        refine ⟨hconfig.trans h.config, h.clock, h.ledger.leave attempt, ?_⟩
        have covers : answer = .written (.ok ()) → t.ledger.Covers delay t.now := by
          rintro rfl
          exact h.ledger.covers hadmits
        have hin := h.inTime
        rcases Campaign.attempt?_eq_some_iff.1 ha with hs | ⟨deadline, hs⟩
        · rcases Campaign.answer_acquiring hs hc with ⟨wait, hs'⟩ | hs' | ⟨hs', hw⟩
          · simp [InTime, hs']
          · simp [InTime, hs']
          · simp only [InTime, hs']
            exact covers hw
        · simp only [InTime, hs] at hin
          rcases Campaign.answer_renewing hs hc with ⟨wait, hs'⟩ | hs' | ⟨hs', hw⟩
          · simp only [InTime, hs', hconfig]
            exact hin
          · simp [InTime, hs']
          · simp only [InTime, hs', hconfig]
            exact ⟨t.now, Nat.le_refl _, covers hw, Instant.le_timer _ _, rfl⟩

/-- A window opens at the very end of the rest, since the clock does not run past it. -/
theorem inTime_wake {clock : Timestamp} (h : t.InTime delay)
    (hfires : t.campaign.timer?.any (· ≤ t.now)) :
    InTime delay { t with campaign := t.campaign.wake t.now clock } := by
  unfold InTime at h
  split at h
  case h_1 wait hs =>
    cases wait with
    | answer attempt => simp [InTime, Campaign.wake, hs]
    | pause wake => by_cases hw : wake ≤ t.now <;> simp [InTime, Campaign.wake, hs, hw]
  case h_2 wake hs =>
    obtain ⟨a, ha, hc, hnow, hw⟩ := h
    have hge : wake ≤ t.now := by simpa [Campaign.timer?, hs] using hfires
    have hat : t.now = wake := Nat.le_antisymm hnow hge
    simp only [InTime, Campaign.wake, hs, hge, if_pos]
    exact ⟨a, ha, hc, Instant.le_timer _ _, by rw [hat, hw]⟩
  case h_3 deadline wait hs =>
    by_cases hd : deadline ≤ t.now
    · cases wait <;> simp [InTime, Campaign.wake, hs, hd]
    · cases wait with
      | answer attempt =>
          simp only [InTime, Campaign.wake, hs, hd, if_neg, not_false_eq_true]
          exact h
      | pause wake =>
          by_cases hw : wake ≤ t.now <;>
            simp only [InTime, Campaign.wake, hs, hd, hw, if_pos, if_neg, not_false_eq_true] <;>
            exact h
  case h_4 hs => simp [Campaign.timer?, hs] at hfires
  case h_5 hs => simp [Campaign.timer?, hs] at hfires

theorem Sound.wake {clock : Timestamp} (h : t.Sound config delay)
    (hp : t.wake clock = some t') : t'.Sound config delay := by
  unfold Tenure.wake at hp
  split at hp
  case isFalse => simp at hp
  case isTrue hfires =>
    obtain rfl := Option.some.inj hp
    refine ⟨(Campaign.wake_elector ..).symm ▸ h.config, h.clock, ?_, ?_⟩
    · cases t.campaign.attempt? with
      | none => exact h.ledger
      | some attempt => exact h.ledger.leave attempt
    · refine (inTime_wake h.inTime hfires).mono_ledger ?_
      cases t.campaign.attempt? with
      | none => exact fun _ _ hc => hc
      | some attempt => exact fun _ _ hc => hc

theorem Sound.cancel (h : t.Sound config delay) (hp : t.cancel = some t') :
    t'.Sound config delay := by
  unfold Tenure.cancel at hp
  split at hp
  case h_2 => simp at hp
  case h_1 wait hs =>
    obtain rfl := Option.some.inj hp
    refine ⟨(Campaign.cancel_elector _).symm ▸ h.config, h.clock, h.ledger, ?_⟩
    cases wait <;> simp [InTime, Campaign.cancel, hs]

/-- Holding begins at the instant at which the winning answer came. -/
theorem Sound.hold (h : t.Sound config delay) (hp : t.hold = some t') :
    t'.Sound config delay := by
  unfold Tenure.hold at hp
  split at hp
  case h_2 => simp at hp
  case h_1 hs =>
    obtain rfl := Option.some.inj hp
    have hin := h.inTime
    simp only [InTime, hs] at hin
    refine ⟨h.config, h.clock, h.ledger, ?_⟩
    simp only [InTime, Campaign.hold, Bool.false_eq_true, if_false]
    exact ⟨t.now, Nat.le_refl _, hin, Instant.le_timer _ _, rfl⟩

theorem Sound.store {attempt : Attempt} {ledger : Ledger} (h : t.Sound config delay)
    (hs : t.ledger.store? attempt t.now = some ledger) :
    Sound config delay { t with ledger := ledger } :=
  ⟨h.config, h.clock, Ledger.Sound.store hs,
    h.inTime.mono_ledger fun _ ha _ => Ledger.covers_of_latest (Ledger.latest_store hs) ha⟩

theorem Sound.storeAstray {ledger : Ledger} (h : t.Sound config delay)
    (hs : t.ledger.storeAstray? t.now = some ledger) :
    Sound config delay { t with ledger := ledger } :=
  ⟨h.config, h.clock, h.ledger.storeAstray hs,
    h.inTime.mono_ledger fun _ ha _ => Ledger.covers_of_latest (Ledger.latest_storeAstray hs) ha⟩

theorem Sound.step {event : Event} (h : t.Sound config delay)
    (hs : t.step delay event = some t') : t'.Sound config delay := by
  cases event with
  | pass now => exact h.pass hs
  | store =>
      obtain ⟨attempt, -, hs⟩ := Option.bind_eq_some_iff.1 hs
      obtain ⟨ledger, hl, rfl⟩ := Option.map_eq_some_iff.1 hs
      exact h.store hl
  | storeAstray =>
      obtain ⟨ledger, hl, rfl⟩ := Option.map_eq_some_iff.1 hs
      exact h.storeAstray hl
  | answer answer => exact h.answer hs
  | wake clock => exact h.wake hs
  | cancel => exact h.cancel hs
  | hold => exact h.hold hs

theorem Sound.run {events : List Event} (h : t.Sound config delay)
    (run : runFrom (Tenure.step delay) t events = some t') : t'.Sound config delay :=
  runFrom_invariant (fun _ _ _ h hs => h.step hs) h run

theorem sound_begin {now : Instant} (shown : Instant.onClock now) (elector : Elector)
    (cancelled : Bool) (clock : Timestamp) :
    (begin elector cancelled clock now).Sound elector.config delay :=
  ⟨rfl, shown, Ledger.Sound.start now, trivial⟩

/-- While the lease is held, the last answer that won it is recent, and the last stored write is
at most the delay older than that answer. -/
theorem Sound.holding (h : t.Sound config delay) (hh : t.isHolding) :
    ∃ a ≤ t.now, t.ledger.Covers delay a ∧ t.now ≤ a + config.longestSilence := by
  have hin := h.inTime
  unfold isHolding at hh
  split at hh
  case h_1 wake hs =>
    simp only [InTime, hs, h.config] at hin
    obtain ⟨a, ha, hc, hw, rfl⟩ := hin
    have hle := Nat.le_trans hw (Instant.le_timer _ config.renewDeadline)
    exact ⟨a, ha, hc, Instant.le_of_le_timer_timer hle h.clock⟩
  case h_2 deadline wait hs =>
    simp only [InTime, hs, h.config] at hin
    obtain ⟨a, ha, hc, hd, rfl⟩ := hin
    exact ⟨a, ha, hc, Instant.le_of_le_timer_timer hd h.clock⟩
  case h_3 => simp at hh

end Tenure

end GatedManager.Election
