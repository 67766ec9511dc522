import GatedManager.Duration.Reader
import GatedManager.Proofs.Election.Minutes

/-!
# Durations beyond the clock

The settings of an election are compared with one another and not with the clock, so a lease
duration may have seconds of 64 bits where instants have 63. A timer whose end lies beyond the clock
fires after thirty years, which is all that becomes of a long retry period or renew deadline. The
end of a lease has no such way out: it is counted from when its record was seen first, whenever an
attempt reads or writes one, and where the clock does not reach it the process ends.

A replica acquires and holds its lease in one campaign after the other. Its runs end like this only
if the lease duration is longer than what is left of the clock, and then the first lease it creates
can do it.
-/

namespace GatedManager.Election

/-- A longer lease duration is accepted wherever a shorter one is. -/
theorem Config.validate_of_longer {config : Config} {d : Duration}
    (valid : config.validate = .ok ()) (longer : config.leaseDuration.nanos ≤ d.nanos) :
    { config with leaseDuration := d }.validate = .ok () := by
  unfold Config.validate at valid ⊢
  split at valid
  case isTrue disabled => simp [disabled]
  case isFalse enabled =>
    split at valid
    case isTrue => cases valid
    case isFalse above =>
      have above' : ¬d.nanos ≤ config.renewDeadline.nanos :=
        fun below => above (Nat.le_trans longer below)
      simpa [enabled, above'] using valid

namespace Minuted

/-- What happens to a replica: something in the campaign that goes on, or the next campaign. -/
inductive Turn
  | event (event : Event)
  | acquire (cancelled : Bool) (clock : { t : Timestamp // t.IsValid })
  | hold (cancelled : Bool)

/-- A further campaign begins when the one before it has ended. -/
def turn (grain : Nat) (t : Minuted) : Turn → Option Minuted
  | .event event => t.step grain event
  | .acquire cancelled clock =>
    if t.crash.isSome ∨ t.campaign.outcome?.isNone then none
    else some (acquire t.campaign.elector cancelled clock t.now)
  | .hold cancelled =>
    if t.crash.isSome ∨ t.campaign.outcome?.isNone then none
    else some (hold t.campaign.elector cancelled t.now)

/-- Whether no run of a replica with these settings has ended in the arithmetic of times where the
clock reaches a `horizon` further. -/
def KeepsTime (horizon : Duration) (config : Config) : Prop :=
  ∀ (grain : Nat) (identity : String) (cancelled : Bool)
    (clock : { t : Timestamp // t.IsValid }) (start : Instant) (turns : List Turn) (t : Minuted),
    runFrom (turn grain) (acquire ⟨identity, config, none⟩ cancelled clock start) turns = some t →
    Instant.reaches t.now horizon → t.crash ≠ some .instantOverflow

variable {grain : Nat} {t t' : Minuted} {turns : List Turn} {config : Config}

/-- A further campaign has begun. -/
structure Begins (t t' : Minuted) : Prop where
  elector : t'.campaign.elector = t.campaign.elector
  now : t'.now = t.now
  alive : t'.crash = none
  unwon : t'.campaign.stage ≠ .ended .acquired

/-- A turn is an event of the campaign that goes on, or a further campaign begins. -/
theorem step_or_begins {turn : Turn} (h : t.turn grain turn = some t') :
    (∃ event, t.step grain event = some t') ∨ t.Begins t' := by
  cases turn with
  | event event => exact .inl ⟨event, h⟩
  | acquire cancelled clock =>
      simp only [Minuted.turn] at h
      split at h
      · cases h
      · obtain rfl := Option.some.inj h
        exact .inr ⟨rfl, rfl, rfl, nofun⟩
  | hold cancelled =>
      simp only [Minuted.turn] at h
      split at h
      · cases h
      · obtain rfl := Option.some.inj h
        exact .inr ⟨rfl, rfl, rfl, by cases cancelled <;> exact nofun⟩

/-! ### Where the arithmetic of times ends a run -/

/-- Whether the answer makes the attempt take note of a record, and the lease counted from when that
was seen first ends beyond the clock. -/
def Overruns (t : Minuted) (answer : Answer) : Prop :=
  ∃ attempt record, t.campaign.attempt? = some attempt ∧ attempt.noted? answer = some record ∧
    ¬Instant.reaches (t.campaign.elector.remember record t.now).since
      t.campaign.elector.config.leaseDuration

theorem overruns_of_crash {event : Event} (h : t.step grain event = some t')
    (crashed : t'.crash = some .instantOverflow) :
    t'.now = t.now ∧ ∃ answer, event = .answer answer ∧ t.Overruns answer := by
  obtain ⟨alive, advances⟩ := advances_of_step h
  cases advances with
  | @crashed attempt answer crash waits crashes =>
      obtain rfl : crash = .instantOverflow := Option.some.inj crashed
      obtain ⟨record, noted, beyond⟩ := Elector.advance_eq_instantOverflow_iff.1 crashes
      exact ⟨rfl, answer, rfl, attempt, record, waits, noted, beyond⟩
  | _ => exact nomatch alive.symm.trans crashed

/-- An answer that an attempt takes note of is one to its request. -/
theorem awaits_of_noted? {attempt : Attempt} {answer : Answer} {record : Record}
    (noted : attempt.noted? answer = some record) : attempt.awaits answer = true := by
  unfold Attempt.noted? at noted
  split at noted
  case h_4 => cases noted
  all_goals rfl

theorem crash_of_overruns (grain : Nat) {answer : Answer} (alive : t.crash = none)
    (overruns : t.Overruns answer) :
    t.step grain (.answer answer) = some { t with crash := some .instantOverflow } := by
  obtain ⟨attempt, record, waits, noted, beyond⟩ := overruns
  have crashes := (Campaign.answer_eq_error_iff waits).2
    (Elector.advance_eq_instantOverflow_iff.2 ⟨record, noted, beyond⟩)
  simp [Minuted.step, Minuted.answer, alive, waits, awaits_of_noted? noted, crashes]

/-! ### Lease durations that the clock reaches -/

/-- What is known of a replica with these settings in every run. -/
structure Paced (config : Config) (t : Minuted) : Prop where
  config_eq : t.campaign.elector.config = config
  past : t.campaign.elector.RemembersPast t.now
  reaches : t.crash = some .instantOverflow → ¬Instant.reaches t.now config.leaseDuration

theorem paced_acquire (identity : String) (config : Config) (cancelled : Bool)
    (clock : { t : Timestamp // t.IsValid }) (start : Instant) :
    Paced config (acquire ⟨identity, config, none⟩ cancelled clock start) :=
  ⟨rfl, nofun, nofun⟩

theorem Paced.step (h : Paced config t) {event : Event} (hs : t.step grain event = some t') :
    Paced config t' := by
  have advances := (advances_of_step hs).2
  refine ⟨advances.config_eq.trans h.config_eq, advances.remembersPast h.past, ?_⟩
  intro crashed reaches
  obtain ⟨now_eq, answer, -, attempt, record, -, -, beyond⟩ := overruns_of_crash hs crashed
  rw [now_eq, ← h.config_eq] at reaches
  exact beyond (h.past.reaches reaches record)

theorem Paced.turn (h : Paced config t) {turn : Turn} (hs : t.turn grain turn = some t') :
    Paced config t' := by
  rcases step_or_begins hs with ⟨event, hs⟩ | begins
  · exact h.step hs
  · refine ⟨begins.elector ▸ h.config_eq, ?_, fun crashed => ?_⟩
    · rw [begins.elector, begins.now]
      exact h.past
    · exact nomatch begins.alive.symm.trans crashed

theorem Paced.run (h : Paced config t)
    (run : runFrom (Minuted.turn grain) t turns = some t') : Paced config t' :=
  runFrom_invariant (fun _ _ _ h hs => h.turn hs) h run

/-! ### Lease durations that the clock does not reach -/

/-- The server has no lease, and the one that the replica creates is stored. -/
def creation : List Turn :=
  [.event (.answer (.read (.ok none))), .event (.answer (.written (.ok ())))]

/-- A replica cannot tell when the lease ends that it has created. -/
theorem creation_crashes (identity : String) (clock : { t : Timestamp // t.IsValid })
    {now : Instant} (beyond : ¬Instant.reaches now config.leaseDuration) :
    ∃ t, runFrom (Minuted.turn grain) (acquire ⟨identity, config, none⟩ false clock now)
        creation = some t ∧ t.now = now ∧ t.crash = some .instantOverflow := by
  let e : Elector := ⟨identity, config, none⟩
  obtain ⟨record, lease, absent⟩ := e.exists_onAbsent clock.2
  let creating : Minuted :=
    ⟨⟨e, false, .acquiring (.answer (.creating record lease))⟩, now, [.sent now, .began now], none⟩
  have asks : (acquire e false clock now).turn grain (.event (.answer (.read (.ok none)))) =
      some creating := by
    have is_step : e.advance (.reading clock) (.read (.ok none)) now =
        .ok (e, .waiting (.creating record lease)) := by
      rw [Elector.advance, absent]
    have sent : (acquire e false clock now).answer (.read (.ok none)) = some creating :=
      Minuted.answer_sent (t := acquire e false clock now) rfl rfl rfl is_step
    rw [Minuted.turn, Minuted.step, if_neg (by simp [acquire])]
    exact sent
  have overruns : creating.Overruns (.written (.ok ())) :=
    ⟨.creating record lease, record, rfl, rfl, beyond⟩
  have crashes : creating.turn grain (.event (.answer (.written (.ok ())))) =
      some { creating with crash := some .instantOverflow } := crash_of_overruns grain rfl overruns
  exact ⟨_, runFrom_step asks (runFrom_step crashes (runFrom_nil _)), rfl, rfl⟩

/-- A campaign that acquires the lease has taken note of its record. -/
theorem Advances.reaches_of_acquired {event : Event} (h : Advances grain t event t')
    (before : t.campaign.stage ≠ .ended .acquired)
    (acquired : t'.campaign.stage = .ended .acquired) :
    ∃ since, Instant.reaches since t.campaign.elector.config.leaseDuration := by
  cases h with
  | passed | crashed | cancelled => exact absurd acquired before
  | sent waits =>
      rcases Campaign.attempt?_eq_some_iff.1 waits with seeks | ⟨d, renews⟩
      · simp [Campaign.attempting, seeks] at acquired
      · simp [Campaign.attempting, renews] at acquired
  | ended held waits advances is_held =>
      obtain rfl := is_held.1 (Campaign.held_of_acquired waits acquired)
      cases advances with
      | written _ observed => exact ⟨_, (Elector.observe_eq_ok_iff.1 observed).1⟩
  | noticed =>
      have yielded : yields t.campaign.stage = .acquired := by simpa using acquired
      unfold yields at yielded
      split at yielded <;> cases yielded
  | _ => cases acquired

/-- A replica with a lease duration that no instant reaches does not come to hold the lease. -/
theorem never_acquires (unreached : Instant.secondsLimit ≤ config.leaseDuration.seconds)
    (identity : String) (cancelled : Bool) (clock : { t : Timestamp // t.IsValid })
    (start : Instant)
    (run : runFrom (Minuted.turn grain) (acquire ⟨identity, config, none⟩ cancelled clock start)
      turns = some t) : t.campaign.stage ≠ .ended .acquired := by
  refine (runFrom_invariant (P := fun t => Paced config t ∧ t.campaign.stage ≠ .ended .acquired)
    ?_ ⟨paced_acquire identity config cancelled clock start, nofun⟩ run).2
  rintro t turn t' ⟨paced, before⟩ hs
  refine ⟨paced.turn hs, ?_⟩
  rcases step_or_begins hs with ⟨event, hs⟩ | begins
  · intro acquired
    obtain ⟨since, reaches⟩ := (advances_of_step hs).2.reaches_of_acquired before acquired
    rw [paced.config_eq] at reaches
    exact Instant.not_reaches_of_le_seconds unreached since reaches
  · exact begins.unwon

/-! ### Which durations are usable -/

variable {horizon : Duration}

/-- The renew deadline and the retry period do not matter, however long they are. -/
theorem keepsTime_iff (config : Config) (shown : Instant.reaches 0 horizon) :
    KeepsTime horizon config ↔ config.leaseDuration.nanos ≤ horizon.nanos := by
  constructor
  · intro keeps
    refine Nat.le_of_not_lt fun longer => ?_
    obtain ⟨now, reaches, beyond⟩ := Instant.exists_beyond shown longer
    obtain ⟨t, run, now_eq, crashed⟩ := creation_crashes "" (Timestamp.ofUnix 0) beyond
    exact keeps 1 "" false _ now creation t run (now_eq ▸ reaches) crashed
  · intro within grain identity cancelled clock start turns t run reaches crashed
    have paced := (paced_acquire identity config cancelled clock start).run run
    exact paced.reaches crashed (Instant.onClock_mono (Nat.add_le_add_left within _) reaches)

/-- A horizon on the clock is too short for some settings that are accepted, and they differ from
any given ones in nothing but the lease duration. -/
theorem exists_accepted_beyond (valid : config.validate = .ok ())
    (shown : Instant.reaches 0 horizon) :
    ∃ d, { config with leaseDuration := d }.validate = .ok () ∧
      ¬KeepsTime horizon { config with leaseDuration := d } := by
  let longer : Duration := ⟨config.leaseDuration.nanos + horizon.nanos + 1⟩
  refine ⟨longer, Config.validate_of_longer valid (by simp only [longer]; omega), ?_⟩
  rw [keepsTime_iff _ shown]
  simp only [longer]
  omega

/-- The arithmetic of times ends no run of a replica that goes on where the clock reaches a horizon
further exactly if the lease duration lies within that horizon. With a lease duration that no
instant reaches, a replica never acquires its lease. Nothing of this is asked of the settings that
are accepted. -/
theorem usable_durations (config : Config) (horizon : Duration)
    (shown : Instant.reaches 0 horizon) :
    (KeepsTime horizon config ↔ config.leaseDuration.nanos ≤ horizon.nanos) ∧
    (Instant.secondsLimit ≤ config.leaseDuration.seconds →
      ∀ (grain : Nat) (identity : String) (cancelled : Bool)
        (clock : { t : Timestamp // t.IsValid }) (start : Instant) (turns : List Turn)
        (t : Minuted), runFrom (Minuted.turn grain)
          (acquire ⟨identity, config, none⟩ cancelled clock start) turns = some t →
        t.campaign.outcome? ≠ some .acquired) ∧
    (config.validate = .ok () → ∃ d, { config with leaseDuration := d }.validate = .ok () ∧
      ¬KeepsTime horizon { config with leaseDuration := d }) := by
  refine ⟨keepsTime_iff config shown, ?_, fun valid => exists_accepted_beyond valid shown⟩
  intro unreached grain identity cancelled clock start turns t run acquired
  exact never_acquires unreached identity cancelled clock start run
    (Campaign.outcome?_eq_some_iff.1 acquired)

/-- Any part of the clock that is as long as the lease is enough for the standard durations. -/
theorem usable_standard_durations : KeepsTime (.ofSeconds 15) {} :=
  (usable_durations {} (.ofSeconds 15) (by decide)).1.2 (by decide)

/-- Settings with a lease duration of ten quintillion seconds. -/
def endless : Config where
  enabled := true
  leaseDuration := .ofSeconds 10000000000000000000
  resourceName := "controller"
  resourceNamespace := "default"

/-- The lease duration can be written and is accepted, and the whole clock is not enough for it. -/
theorem endless_crashes :
    Duration.read "10000000000000000000s" = .ok endless.leaseDuration ∧
      endless.validate = .ok () ∧ ¬KeepsTime (.ofSeconds 9000000000000000000) endless := by
  have beyond : ¬Instant.reaches 0 endless.leaseDuration := by decide
  refine ⟨by decide +kernel, rfl, fun keeps => ?_⟩
  obtain ⟨t, run, now_eq, crashed⟩ := creation_crashes "first" (Timestamp.ofUnix 0) beyond
  exact keeps 1 "first" false _ 0 creation t run (by rw [now_eq]; decide) crashed

end Minuted

end GatedManager.Election
