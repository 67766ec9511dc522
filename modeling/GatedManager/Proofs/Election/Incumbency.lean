import GatedManager.Proofs.Election.Authorship
import GatedManager.Proofs.Runs

/-!
# Holders that yield

An incumbency is one elector that acquires the lease and then holds it, while the API and the other
writers do whatever they like: every answer may come at any time and say anything. A holder that
has read a lease of another replica must not write over it.

A holder takes another record to be expired when it has seen it unchanged for the lease duration. It
begins each window with its own record in mind, so it has seen any other one no earlier than since
the window opened, and the window closes before the lease duration is over.

The clock shows whole multiples of its *grain* and does not run past a timer that is still to fire.
A virtual clock moves from timer to timer, so its grain is a millisecond. On a finer clock a window
can outlast the renew deadline by as much as its timer is rounded.
-/

namespace GatedManager.Election

/-- What an attempt has read. -/
inductive Sight
  | absent
  | held (record : Record)
deriving DecidableEq

namespace Sight

/-- Whether the lease is seen with another holder than this replica. -/
def isForeign (identity : String) : Sight → Bool
  | absent => false
  | held record => record.holder ≠ "" ∧ record.holder ≠ identity

/-- What an answer lets an attempt see. -/
def ofAnswer? : Answer → Option Sight
  | .read (.ok none) => some .absent
  | .read (.ok (some lease)) => (Record.ofLease? lease).map .held
  | _ => none

end Sight

/-- Whether an answer tells that a write was stored. -/
def Answer.isStored : Answer → Bool
  | written (.ok ()) => true
  | _ => false

/-- Whether an attempt writes over a lease that it has read. -/
def Attempt.isReplacing : Attempt → Bool
  | replacing _ _ => true
  | _ => false

structure Incumbency where
  campaign : Campaign
  now : Instant
  /-- What has been read since the open window began. -/
  window : List Sight := []
  /-- What was read in each window that ended with success. -/
  won : List (List Sight) := []
  /-- What was read where a write has gone out over it while the lease was held. -/
  replaced : List Sight := []

namespace Incumbency

inductive Event
  /-- Time passes. -/
  | pass (now : Instant)
  | answer (answer : Answer)
  /-- A timer fires. -/
  | wake (clock : Timestamp)
  /-- The campaign is cancelled, and takes notice of it if it pauses or rests. -/
  | cancel
  /-- The campaign is cancelled and has not taken notice yet. -/
  | signal
  /-- The lease was acquired, and holding it begins. -/
  | hold (cancelled : Bool)

/-- An incumbency begins with the first attempt to acquire the lease. -/
def begin (elector : Elector) (cancelled : Bool) (clock : Timestamp) (now : Instant) :
    Incumbency :=
  { campaign := .acquire elector cancelled clock, now := now }

/-- Whether a window is open in which the lease has to be renewed. -/
def isRenewing (t : Incumbency) : Bool :=
  match t.campaign.stage with
  | .renewing _ _ => true
  | _ => false

def pass (grain : Nat) (t : Incumbency) (now : Instant) : Option Incumbency :=
  if t.now ≤ now ∧ grain ∣ now ∧ Instant.onClock now ∧ t.campaign.timer?.all (now ≤ ·) then
    some { t with now := now }
  else none

/-- The record of an open window after an answer that left the campaign in a new state: what was
read, whether a write goes out over it, and whether the window has ended with success. -/
def note (t : Incumbency) (answer : Answer) (campaign : Campaign) : Incumbency :=
  if t.isRenewing then
    let reads := (Sight.ofAnswer? answer).toList
    { t with
      campaign := campaign
      window := if answer.isStored then [] else t.window ++ reads
      won := if answer.isStored then t.window :: t.won else t.won
      replaced :=
        if campaign.attempt?.any (·.isReplacing) then reads ++ t.replaced else t.replaced }
  else { t with campaign := campaign }

/-- An answer comes to the open attempt. When a further request follows from it, that goes out
before the window closes or not at all. -/
def answer (t : Incumbency) (answer : Answer) : Option Incumbency :=
  match t.campaign.attempt? with
  | none => none
  | some attempt =>
    if attempt.awaits answer then
      match t.campaign.answer answer t.now with
      | .error _ => none
      | .ok campaign =>
        if campaign.attempt?.isSome ∧ t.campaign.timer?.any (· ≤ t.now) then none
        else some (t.note answer campaign)
    else none

def wake (t : Incumbency) (clock : Timestamp) : Option Incumbency :=
  if t.campaign.timer?.any (· ≤ t.now) then
    some { t with campaign := t.campaign.wake t.now clock }
  else none

def hold (t : Incumbency) (cancelled : Bool) : Option Incumbency :=
  match t.campaign.stage with
  | .ended .acquired => some { t with campaign := .hold t.campaign.elector cancelled t.now }
  | _ => none

/-- The incumbency after an event, `none` when the event is not possible. -/
def step (grain : Nat) (t : Incumbency) : Event → Option Incumbency
  | .pass now => t.pass grain now
  | .answer answer => t.answer answer
  | .wake clock => t.wake clock
  | .cancel => some { t with campaign := t.campaign.cancel }
  | .signal => some { t with campaign := t.campaign.signal }
  | .hold cancelled => t.hold cancelled

/-- No write has gone out over the record of another holder, and a window in which one was read has
ended with success only after something else was read. -/
structure Yields (t : Incumbency) : Prop where
  replaced : ∀ sight ∈ t.replaced, sight.isForeign t.campaign.elector.identity = false
  won : ∀ reads ∈ t.won, ∀ before sight after, reads = before ++ sight :: after →
    sight.isForeign t.campaign.elector.identity = true →
      ∃ later ∈ after, later.isForeign t.campaign.elector.identity = false

end Incumbency

/-! ### What an attempt remembers and writes -/

namespace Elector

/-- Whether nothing but the elector's own record is remembered. -/
def RemembersOwn (e : Elector) : Prop :=
  ∀ seen, e.observed = some seen → seen.record.holder = e.identity

/-- Whether the record of another is remembered only since `opened`. -/
def RemembersSince (e : Elector) (opened : Instant) : Prop :=
  ∀ seen, e.observed = some seen → seen.record.holder ≠ e.identity → opened ≤ seen.since

variable {e e' : Elector} {now opened : Instant} {record : Record} {expired : Bool}

theorem RemembersOwn.since (h : e.RemembersOwn) (opened : Instant) : e.RemembersSince opened :=
  fun seen is other => absurd (h seen is) other

theorem remembersOwn_of_observe (own : record.holder = e.identity)
    (observed : e.observe record now = .ok (expired, e')) : e'.RemembersOwn := by
  obtain ⟨-, -, rfl⟩ := observe_eq_ok_iff.1 observed
  rintro _ ⟨⟩
  rw [remember_record]
  exact own

theorem RemembersSince.remember (h : e.RemembersSince opened) (later : opened ≤ now)
    (other : record.holder ≠ e.identity) : opened ≤ (e.remember record now).since := by
  unfold Elector.remember
  split
  case h_1 seen is_seen =>
    split
    case isTrue same => exact h seen is_seen (same ▸ other)
    case isFalse => exact later
  case h_2 => exact later

theorem RemembersSince.observe (h : e.RemembersSince opened) (later : opened ≤ now)
    (observed : e.observe record now = .ok (expired, e')) : e'.RemembersSince opened := by
  obtain ⟨-, -, rfl⟩ := observe_eq_ok_iff.1 observed
  rintro _ ⟨⟩ other
  exact h.remember later (by rwa [remember_record] at other)

end Elector

/-- Whether what an attempt writes is the record of this replica. -/
def Attempt.WritesOwn (attempt : Attempt) (identity : String) : Prop :=
  ∀ record lease, attempt = .creating record lease ∨ attempt = .replacing record lease →
    record.holder = identity

theorem Attempt.writesOwn_reading (clock : Timestamp) (identity : String) :
    (reading clock).WritesOwn identity :=
  fun _ _ writes => by rcases writes with is | is <;> cases is

namespace Elector.Advances

variable {e e' : Elector} {now opened : Instant} {attempt next : Attempt} {answer : Answer}
  {progress : Progress}

theorem writesOwn (h : Advances e now attempt answer e' (.waiting next))
    (own : attempt.WritesOwn e.identity) : next.WritesOwn e.identity := by
  cases h with
  | create clock lease written =>
      rintro record lease (⟨⟨⟩⟩ | is)
      · rfl
      · cases is
  | replace clock lease readable observed due written =>
      rintro record lease (is | ⟨⟨⟩⟩)
      · cases is
      · exact Record.holder_of_next? due
  | stray other => exact own

/-- An attempt that wins the lease leaves the elector with its own record in mind. -/
theorem remembersOwn (h : Advances e now attempt answer e' (.finished (.ok true)))
    (own : attempt.WritesOwn e.identity) : e'.RemembersOwn := by
  cases h with
  | written write observed => exact remembersOwn_of_observe (own _ _ write) observed

theorem remembersSince (h : Advances e now attempt answer e' progress)
    (mind : e.RemembersSince opened) (later : opened ≤ now) : e'.RemembersSince opened := by
  cases h with
  | respect clock lease readable observed due => exact mind.observe later observed
  | replace clock lease readable observed due written => exact mind.observe later observed
  | unreplaced clock lease readable observed => exact mind.observe later observed
  | written write observed => exact mind.observe later observed
  | _ => exact mind

/-- Only an attempt that ends with the lease was told that its write is stored. -/
theorem not_isStored (h : Advances e now attempt answer e' progress)
    (awaited : attempt.awaits answer = true) (open_ : progress ≠ .finished (.ok true)) :
    answer.isStored = false := by
  cases h with
  | written write observed => exact absurd rfl open_
  | stray other => exact absurd awaited (by simp [other])
  | _ => rfl

/-- What leads to a write was read just before, and it is no record of another: such a one would
have had to be in mind for longer than since `opened`. -/
theorem yields (h : Advances e now attempt answer e' (.waiting next))
    (awaited : attempt.awaits answer = true) (mind : e.RemembersSince opened)
    (later : opened ≤ now) (early : now < opened + e.config.leaseDuration.nanos) :
    ∃ sight, Sight.ofAnswer? answer = some sight ∧ sight.isForeign e.identity = false := by
  cases h with
  | create clock lease written => exact ⟨.absent, rfl, rfl⟩
  | stray other => exact absurd awaited (by simp [other])
  | @replace clock lease current next expired e' lease' readable observed due written =>
      refine ⟨.held current, by simp [Sight.ofAnswer?, readable], ?_⟩
      refine decide_eq_false ?_
      rintro ⟨held, other⟩
      have stood := Record.expired_of_next? due held other
      obtain ⟨-, expired_eq, -⟩ := observe_eq_ok_iff.1 observed
      rw [stood, eq_comm, decide_eq_true_iff] at expired_eq
      refine absurd expired_eq (Nat.not_le.2 ?_)
      exact Nat.lt_of_lt_of_le early (Nat.add_le_add_right (mind.remember later other) _)

end Elector.Advances

/-! ### What each event keeps -/

/-- Whether a window that opened at a whole millisecond closes before a lease duration is over, as
far as the clock shows. -/
def Config.ClosesInTime (config : Config) (grain : Nat) : Prop :=
  ∀ opened now : Nat, Instant.nanosPerMilli ∣ opened → grain ∣ now →
    now < opened + Instant.roundUpMillis config.renewDeadline.nanos →
      now < opened + config.leaseDuration.nanos

theorem Config.closesInTime_millis {config : Config}
    (above : config.renewDeadline.nanos < config.leaseDuration.nanos) :
    config.ClosesInTime Instant.nanosPerMilli := by
  intro opened now whole whole_now early
  simp only [Instant.roundUpMillis, Instant.nanosPerMilli] at whole whole_now early
  omega

theorem Config.closesInTime_of_le {config : Config} {grain : Nat}
    (above : Instant.roundUpMillis config.renewDeadline.nanos ≤ config.leaseDuration.nanos) :
    config.ClosesInTime grain :=
  fun opened _ _ _ early => Nat.lt_of_lt_of_le early (Nat.add_le_add_left above opened)

namespace Incumbency

/-- Whether the last of what was read is no record of another. -/
def Concedes (identity : String) (reads : List Sight) : Prop :=
  ∃ before last, reads = before ++ [last] ∧ last.isForeign identity = false

/-- The window that closes at `deadline` opened at a whole millisecond, when the elector had nothing
of others in mind. -/
structure Opened (e : Elector) (now opened deadline : Instant) : Prop where
  whole : Instant.nanosPerMilli ∣ opened
  before : opened ≤ now
  deadline_eq : deadline = Instant.timer opened e.config.renewDeadline
  mind : e.RemembersSince opened

/-- Where an incumbency stands, by the stage of its campaign. -/
inductive Stands (e : Elector) (now : Instant) (window : List Sight) : Stage → Prop
  | seeking {attempt : Attempt} (own : attempt.WritesOwn e.identity) :
      Stands e now window (.acquiring (.answer attempt))
  | pausing {wake : Instant} : Stands e now window (.acquiring (.pause wake))
  | acquired (mind : e.RemembersOwn) : Stands e now window (.ended .acquired)
  | resting {wake : Instant} (mind : e.RemembersOwn) (rests : now ≤ wake)
      (whole : Instant.nanosPerMilli ∣ wake) : Stands e now window (.resting wake)
  | renewing {opened deadline : Instant} {attempt : Attempt} (open_ : Opened e now opened deadline)
      (own : attempt.WritesOwn e.identity)
      (concedes : attempt.isWrite → Concedes e.identity window) :
      Stands e now window (.renewing deadline (.answer attempt))
  | retrying {opened deadline wake : Instant} (open_ : Opened e now opened deadline) :
      Stands e now window (.renewing deadline (.pause wake))
  | ended {outcome : Outcome} (unheld : outcome ≠ .acquired) : Stands e now window (.ended outcome)

structure Sound (elector : Elector) (grain : Nat) (t : Incumbency) : Prop where
  identity : t.campaign.elector.identity = elector.identity
  config : t.campaign.elector.config = elector.config
  grain : grain ∣ t.now
  clock : Instant.onClock t.now
  stands : Stands t.campaign.elector t.now t.window t.campaign.stage
  replaced : ∀ sight ∈ t.replaced, sight.isForeign elector.identity = false
  won : ∀ reads ∈ t.won, Concedes elector.identity reads

variable {e e' elector : Elector} {grain : Nat} {t t' : Incumbency} {c : Campaign}
  {now later opened deadline : Instant} {window : List Sight} {stage : Stage} {attempt : Attempt}
  {reply : Answer} {progress : Progress}

theorem Opened.pass (h : Opened e now opened deadline) (passes : now ≤ later) :
    Opened e later opened deadline :=
  { h with before := Nat.le_trans h.before passes }

theorem Opened.advance (h : Opened e now opened deadline)
    (advances : Elector.Advances e now attempt reply e' progress) :
    Opened e' now opened deadline where
  whole := h.whole
  before := h.before
  deadline_eq := by rw [advances.frame.2]; exact h.deadline_eq
  mind := advances.remembersSince h.mind h.before

/-- Before an open window closes, it has been open for less than the lease duration. -/
theorem Opened.lt_leaseDuration (h : Opened e now opened deadline)
    (inTime : e.config.ClosesInTime grain) (whole : grain ∣ now) (shown : Instant.onClock now)
    (early : now < deadline) : now < opened + e.config.leaseDuration.nanos := by
  rw [h.deadline_eq] at early
  exact inTime opened now h.whole whole (Instant.lt_of_lt_timer h.whole early shown)

theorem Stands.pass (h : Stands e now window stage) (passes : now ≤ later)
    (before : ∀ wake, stage = .resting wake → later ≤ wake) : Stands e later window stage := by
  cases h with
  | seeking own => exact .seeking own
  | pausing => exact .pausing
  | acquired mind => exact .acquired mind
  | resting mind rests whole => exact .resting mind (before _ rfl) whole
  | renewing open_ own concedes => exact .renewing (open_.pass passes) own concedes
  | retrying open_ => exact .retrying (open_.pass passes)
  | ended unheld => exact .ended unheld

theorem Sound.pass (h : t.Sound elector grain) (hp : t.pass grain now = some t') :
    t'.Sound elector grain := by
  obtain ⟨⟨passes, whole, shown, before⟩, rfl⟩ :
      (t.now ≤ now ∧ grain ∣ now ∧ Instant.onClock now ∧ t.campaign.timer?.all (now ≤ ·)) ∧
        { t with now := now } = t' := by
    simpa [Incumbency.pass] using hp
  refine ⟨h.identity, h.config, whole, shown, h.stands.pass passes ?_, h.replaced, h.won⟩
  intro wake rests
  simpa [Campaign.timer?, rests] using before

/-- A window opens at the very end of a rest, since the clock does not run past it. -/
theorem Stands.wake (h : Stands c.elector now window c.stage) (fires : c.timer?.any (· ≤ now))
    (clock : Timestamp) :
    Stands (c.wake now clock).elector now window (c.wake now clock).stage := by
  rw [Campaign.wake_elector]
  obtain ⟨e, cancelled, stage⟩ := c
  cases h with
  | seeking own => simp [Campaign.timer?] at fires
  | @pausing wake =>
      simp only [Campaign.wake]
      split
      · exact .seeking (Attempt.writesOwn_reading _ _)
      · exact .pausing
  | acquired mind => simp [Campaign.timer?] at fires
  | @resting wake mind rests whole =>
      have ended : wake ≤ now := by simpa [Campaign.timer?] using fires
      obtain rfl : now = wake := Nat.le_antisymm rests ended
      simp only [Campaign.wake, Nat.le_refl, if_true]
      exact .renewing ⟨whole, Nat.le_refl _, rfl, mind.since _⟩ (Attempt.writesOwn_reading _ _)
        (by rintro ⟨⟩)
  | @renewing opened deadline attempt open_ own concedes =>
      simp only [Campaign.wake]
      split
      · exact .ended (by decide)
      · exact .renewing open_ own concedes
  | @retrying opened deadline wake open_ =>
      simp only [Campaign.wake]
      split
      · exact .ended (by decide)
      split
      · exact .renewing open_ (Attempt.writesOwn_reading _ _) (by rintro ⟨⟩)
      · exact .retrying open_
  | ended unheld => simp [Campaign.timer?] at fires

theorem Sound.wake {clock : Timestamp} (h : t.Sound elector grain)
    (hp : t.wake clock = some t') : t'.Sound elector grain := by
  obtain ⟨fires, rfl⟩ : t.campaign.timer?.any (· ≤ t.now) ∧
      { t with campaign := t.campaign.wake t.now clock } = t' := by
    simpa [Incumbency.wake] using hp
  have frame := Campaign.wake_elector t.campaign t.now clock
  exact ⟨frame ▸ h.identity, frame ▸ h.config, h.grain, h.clock, h.stands.wake fires clock,
    h.replaced, h.won⟩

theorem Stands.cancel (h : Stands c.elector now window c.stage) :
    Stands c.cancel.elector now window c.cancel.stage := by
  rw [Campaign.cancel_elector]
  obtain ⟨e, cancelled, stage⟩ := c
  cases h with
  | seeking own => exact .seeking own
  | pausing => exact .ended (by decide)
  | acquired mind => exact .acquired mind
  | resting mind rests whole => exact .ended (by decide)
  | renewing open_ own concedes => exact .renewing open_ own concedes
  | retrying open_ => exact .ended (by decide)
  | ended unheld => exact .ended unheld

theorem Sound.cancel (h : t.Sound elector grain) :
    Sound elector grain { t with campaign := t.campaign.cancel } := by
  have frame := Campaign.cancel_elector t.campaign
  exact ⟨frame ▸ h.identity, frame ▸ h.config, h.grain, h.clock, h.stands.cancel, h.replaced,
    h.won⟩

/-- Holding begins with the elector's own record in mind, since it was acquired. -/
theorem Sound.hold {cancelled : Bool} (h : t.Sound elector grain)
    (hp : t.hold cancelled = some t') : t'.Sound elector grain := by
  unfold Incumbency.hold at hp
  split at hp
  case h_2 => cases hp
  case h_1 acquired =>
    obtain rfl := Option.some.inj hp
    refine ⟨h.identity, h.config, h.grain, h.clock, ?_, h.replaced, h.won⟩
    have stands := h.stands
    rw [acquired] at stands
    cases stands with
    | ended unheld => exact absurd rfl unheld
    | acquired mind =>
        cases cancelled with
        | true => exact .ended (by decide)
        | false => exact .resting mind (Instant.le_timer _ _) (Instant.timer_dvd _ _)

/-! ### Answers -/

theorem stands_seeking (seeks : c.stage = .acquiring (.answer attempt))
    (own : attempt.WritesOwn c.elector.identity)
    (advances : Elector.Advances c.elector now attempt reply e' progress) :
    Stands (c.proceed e' progress now).elector now window (c.proceed e' progress now).stage := by
  rw [Campaign.proceed_elector (Campaign.attempt?_eq_some_iff.2 (.inl seeks))]
  have idles : ∀ held, held = false → Stands e' now window (c.conclude e' held now).stage := by
    rintro _ rfl
    simp only [Campaign.conclude, seeks, Bool.false_eq_true, if_false]
    split
    · exact .ended (by decide)
    · exact .pausing
  cases progress with
  | waiting next =>
      simp only [Campaign.proceed, Campaign.attempting, seeks]
      exact .seeking (advances.frame.1.symm ▸ advances.writesOwn own)
  | finished result =>
      cases result with
      | error error => exact idles false rfl
      | ok held =>
          cases held with
          | false => exact idles false rfl
          | true =>
              simp only [Campaign.proceed, Campaign.conclude, seeks, if_true]
              exact .acquired (advances.remembersOwn own)

theorem stands_renewing (renews : c.stage = .renewing deadline (.answer attempt))
    (open_ : Opened c.elector now opened deadline) (own : attempt.WritesOwn c.elector.identity)
    (advances : Elector.Advances c.elector now attempt reply e' progress)
    (concedes : ∀ next, progress = .waiting next → Concedes c.elector.identity window) :
    Stands (c.proceed e' progress now).elector now window (c.proceed e' progress now).stage := by
  rw [Campaign.proceed_elector (Campaign.attempt?_eq_some_iff.2 (.inr ⟨deadline, renews⟩))]
  have idles : ∀ held, held = false → Stands e' now window (c.conclude e' held now).stage := by
    rintro _ rfl
    simp only [Campaign.conclude, renews, Bool.false_eq_true, if_false]
    split
    · exact .ended (by decide)
    · exact .retrying (open_.advance advances)
  cases progress with
  | waiting next =>
      simp only [Campaign.proceed, Campaign.attempting, renews]
      exact .renewing (open_.advance advances) (advances.frame.1.symm ▸ advances.writesOwn own)
        fun _ => advances.frame.1.symm ▸ concedes next rfl
  | finished result =>
      cases result with
      | error error => exact idles false rfl
      | ok held =>
          cases held with
          | false => exact idles false rfl
          | true =>
              simp only [Campaign.proceed, Campaign.conclude, renews, if_true]
              split
              · exact .ended (by decide)
              · exact .resting (advances.remembersOwn own) (Instant.le_timer _ _)
                  (Instant.timer_dvd _ _)

/-- What an answer does, with everything that it needs. -/
theorem exists_of_answer (hp : t.answer reply = some t') :
    ∃ attempt e' progress, t.campaign.attempt? = some attempt ∧ attempt.awaits reply = true ∧
      Elector.Advances t.campaign.elector t.now attempt reply e' progress ∧
      (∀ next, progress = .waiting next → ∀ fires, t.campaign.timer? = some fires →
        t.now < fires) ∧
      t' = t.note reply (t.campaign.proceed e' progress t.now) := by
  unfold Incumbency.answer at hp
  split at hp
  case h_1 => cases hp
  case h_2 attempt is_attempt =>
    split at hp
    case isFalse => cases hp
    case isTrue awaited =>
      split at hp
      case h_1 => cases hp
      case h_2 campaign answered =>
        split at hp
        case isTrue => cases hp
        case isFalse prompt =>
          obtain ⟨e', progress, advances, rfl⟩ := Campaign.answer_eq_ok is_attempt answered
          refine ⟨attempt, e', progress, is_attempt, awaited, advances, ?_,
            (Option.some.inj hp).symm⟩
          rintro next rfl fires is_timer
          rw [Campaign.proceed, Campaign.attempt?_attempting is_attempt, is_timer] at prompt
          simpa using prompt

theorem note_seeking {wait : Wait} (seeks : t.campaign.stage = .acquiring wait)
    (reply : Answer) (c : Campaign) : t.note reply c = { t with campaign := c } := by
  simp only [note, isRenewing, seeks, Bool.false_eq_true, if_false]

theorem note_renewing {wait : Wait} (renews : t.campaign.stage = .renewing deadline wait)
    (reply : Answer) (c : Campaign) :
    t.note reply c = { t with
      campaign := c
      window := if reply.isStored then [] else t.window ++ (Sight.ofAnswer? reply).toList
      won := if reply.isStored then t.window :: t.won else t.won
      replaced := if c.attempt?.any (·.isReplacing) then
        (Sight.ofAnswer? reply).toList ++ t.replaced else t.replaced } := by
  simp only [note, isRenewing, renews, if_true]

theorem isWrite_of_isStored (stored : reply.isStored = true)
    (awaited : attempt.awaits reply = true) : attempt.isWrite = true := by
  cases reply with
  | read result => cases stored
  | written result => exact awaited

/-- An answer in an open window. A write that follows from it goes out over what the answer let the
elector see, and one that it reports as stored went out over what was seen last. -/
theorem Sound.note_renewing (h : t.Sound elector grain)
    (inTime : elector.config.ClosesInTime grain)
    (renews : t.campaign.stage = .renewing deadline (.answer attempt))
    (awaited : attempt.awaits reply = true)
    (advances : Elector.Advances t.campaign.elector t.now attempt reply e' progress)
    (prompt : ∀ next, progress = .waiting next → t.now < deadline) :
    (t.note reply (t.campaign.proceed e' progress t.now)).Sound elector grain := by
  have is_attempt : t.campaign.attempt? = some attempt :=
    Campaign.attempt?_eq_some_iff.2 (.inr ⟨deadline, renews⟩)
  have frame : (t.campaign.proceed e' progress t.now).elector = e' :=
    Campaign.proceed_elector is_attempt
  have stands := h.stands
  rw [renews] at stands
  cases stands with
  | @renewing opened _ _ open_ own concedes =>
    have yields : ∀ next, progress = .waiting next → ∃ sight, Sight.ofAnswer? reply = some sight ∧
        sight.isForeign elector.identity = false := by
      rintro next rfl
      have early := open_.lt_leaseDuration (h.config.symm ▸ inTime) h.grain h.clock
        (prompt next rfl)
      exact h.identity ▸ advances.yields awaited open_.mind open_.before early
    have conceded : ∀ next, progress = .waiting next → Concedes t.campaign.elector.identity
        (if reply.isStored then [] else t.window ++ (Sight.ofAnswer? reply).toList) := by
      intro next goes_on
      obtain ⟨sight, seen, other⟩ := yields next goes_on
      have unstored := advances.not_isStored awaited (goes_on ▸ nofun)
      exact ⟨t.window, sight, by simp [unstored, seen], h.identity ▸ other⟩
    rw [Incumbency.note_renewing renews]
    refine ⟨?_, ?_, h.grain, h.clock, ?_, ?_, ?_⟩
    · exact (congrArg Elector.identity frame).trans (advances.frame.1.trans h.identity)
    · exact (congrArg Elector.config frame).trans (advances.frame.2.trans h.config)
    · exact stands_renewing renews open_ own advances conceded
    · intro sight replaced
      dsimp only at replaced
      split at replaced
      case isFalse => exact h.replaced sight replaced
      case isTrue goes_out =>
        cases progress with
        | finished result =>
            rw [Campaign.attempt?_proceed is_attempt] at goes_out
            cases goes_out
        | waiting next =>
            obtain ⟨seen, is_seen, other⟩ := yields next rfl
            rw [is_seen, Option.toList_some, List.singleton_append, List.mem_cons] at replaced
            rcases replaced with rfl | before
            · exact other
            · exact h.replaced sight before
    · intro reads won
      dsimp only at won
      split at won
      case isFalse => exact h.won reads won
      case isTrue stored =>
        rcases List.mem_cons.1 won with rfl | before
        · exact h.identity ▸ concedes (isWrite_of_isStored stored awaited)
        · exact h.won reads before

/-- Before the lease was acquired, nothing is recorded. -/
theorem Sound.note_seeking (h : t.Sound elector grain)
    (seeks : t.campaign.stage = .acquiring (.answer attempt))
    (advances : Elector.Advances t.campaign.elector t.now attempt reply e' progress) :
    (t.note reply (t.campaign.proceed e' progress t.now)).Sound elector grain := by
  have is_attempt : t.campaign.attempt? = some attempt :=
    Campaign.attempt?_eq_some_iff.2 (.inl seeks)
  have frame : (t.campaign.proceed e' progress t.now).elector = e' :=
    Campaign.proceed_elector is_attempt
  have stands := h.stands
  rw [seeks] at stands
  cases stands with
  | seeking own =>
    rw [Incumbency.note_seeking seeks]
    refine ⟨?_, ?_, h.grain, h.clock, ?_, h.replaced, h.won⟩
    · exact (congrArg Elector.identity frame).trans (advances.frame.1.trans h.identity)
    · exact (congrArg Elector.config frame).trans (advances.frame.2.trans h.config)
    · exact stands_seeking seeks own advances

theorem Sound.answer (h : t.Sound elector grain) (inTime : elector.config.ClosesInTime grain)
    (hp : t.answer reply = some t') : t'.Sound elector grain := by
  obtain ⟨attempt, e', progress, is_attempt, awaited, advances, prompt, rfl⟩ := exists_of_answer hp
  rcases Campaign.attempt?_eq_some_iff.1 is_attempt with seeks | ⟨deadline, renews⟩
  · exact h.note_seeking seeks advances
  · refine h.note_renewing inTime renews awaited advances ?_
    intro next goes_on
    exact prompt next goes_on deadline (by rw [Campaign.timer?, renews])

theorem Sound.step {event : Event} (h : t.Sound elector grain)
    (inTime : elector.config.ClosesInTime grain) (hs : t.step grain event = some t') :
    t'.Sound elector grain := by
  cases event with
  | pass now => exact h.pass hs
  | answer answer => exact h.answer inTime hs
  | wake clock => exact h.wake hs
  | cancel => exact Option.some.inj hs ▸ h.cancel
  | signal => exact Option.some.inj hs ▸ { h with }
  | hold cancelled => exact h.hold hs

theorem sound_begin (whole : grain ∣ now) (shown : Instant.onClock now) (elector : Elector)
    (cancelled : Bool) (clock : Timestamp) :
    (begin elector cancelled clock now).Sound elector grain :=
  ⟨rfl, rfl, whole, shown, .seeking (Attempt.writesOwn_reading _ _), nofun, nofun⟩

theorem Sound.run {events : List Event} (h : t.Sound elector grain)
    (inTime : elector.config.ClosesInTime grain)
    (run : runFrom (Incumbency.step grain) t events = some t') : t'.Sound elector grain :=
  runFrom_invariant (fun _ _ _ h hs => h.step inTime hs) h run

theorem Sound.yields (h : t.Sound elector grain) : t.Yields := by
  refine ⟨h.identity.symm ▸ h.replaced, ?_⟩
  rintro reads won before sight after rfl foreign
  obtain ⟨front, last, reads_eq, other⟩ := h.won _ won
  rw [← h.identity] at other
  rcases List.eq_nil_or_concat after with rfl | ⟨middle, final, rfl⟩
  · obtain ⟨-, same⟩ := List.append_inj' reads_eq rfl
    rw [List.singleton_inj.1 same, other] at foreign
    cases foreign
  · have split_eq : (before ++ sight :: middle) ++ [final] = front ++ [last] := by
      simpa using reads_eq
    obtain ⟨-, same⟩ := List.append_inj' split_eq rfl
    exact ⟨final, by simp, List.singleton_inj.1 same ▸ other⟩

/-! ### Every run -/

/-- Whether the elector never steals the lease back, whatever it is told and whenever. -/
def NeverSteals (elector : Elector) (grain : Nat) : Prop :=
  ∀ cancelled clock start events t, grain ∣ start → Instant.onClock start →
    runFrom (step grain) (begin elector cancelled clock start) events = some t → t.Yields

theorem neverSteals_of_closesInTime (inTime : elector.config.ClosesInTime grain) :
    NeverSteals elector grain :=
  fun cancelled clock _ _ _ whole shown run =>
    ((sound_begin whole shown elector cancelled clock).run inTime run).yields

/-- A lease duration above the renew deadline keeps a holder from taking the lease back, as long as
the clock does not show less than a timer can be set to. On any clock it does so when it is as long
as the timer of a window. -/
theorem never_steals_back (elector : Elector)
    (above : elector.config.renewDeadline.nanos < elector.config.leaseDuration.nanos) :
    NeverSteals elector Instant.nanosPerMilli ∧
    (Instant.roundUpMillis elector.config.renewDeadline.nanos ≤ elector.config.leaseDuration.nanos →
      ∀ grain, NeverSteals elector grain) :=
  ⟨neverSteals_of_closesInTime (Config.closesInTime_millis above),
    fun covers _ => neverSteals_of_closesInTime (Config.closesInTime_of_le covers)⟩

/-- A lease that lasts hardly longer than a window. -/
def narrow : Config where
  enabled := true
  leaseDuration := ⟨10000000001⟩
  renewDeadline := .ofSeconds 10
  resourceName := "manager-leader"
  resourceNamespace := "default"

/-- A lease of another replica. -/
def rivalLease : Api.Lease := ⟨{}, some ⟨none, some "second", none, none, none⟩⟩

/-- The lease is created and held. Then another replica has it, and the holder leaves it alone until
it is gone. -/
def contested : List Event :=
  [.answer (.read (.ok none)), .answer (.written (.ok ())), .hold false,
    .pass 2000000000, .wake ⟨2, 0⟩, .answer (.read (.ok (some rivalLease))),
    .pass 4000000000, .wake ⟨4, 0⟩, .answer (.read (.ok none)), .answer (.written (.ok ()))]

theorem narrow_yields :
    narrow.renewDeadline.nanos < narrow.leaseDuration.nanos ∧
    ∃ t, runFrom (step Instant.nanosPerMilli)
        (begin ⟨"first", narrow, none⟩ false ⟨0, 0⟩ 0) contested = some t ∧
      t.won = [[.held { holderIdentity := some "second" }, .absent]] ∧ t.Yields := by
  have above : narrow.renewDeadline.nanos < narrow.leaseDuration.nanos := by decide
  have won : (runFrom (step Instant.nanosPerMilli)
      (begin ⟨"first", narrow, none⟩ false ⟨0, 0⟩ 0) contested).map Incumbency.won =
        some [[.held { holderIdentity := some "second" }, .absent]] := by
    decide +kernel
  obtain ⟨t, run, won_eq⟩ := Option.map_eq_some_iff.1 won
  exact ⟨above, t, run, won_eq, (never_steals_back ⟨"first", narrow, none⟩ above).1
    false ⟨0, 0⟩ 0 contested t (by decide) (by decide) run⟩

/-- A lease that lasts longer than the renew deadline by less than a millisecond. -/
def fine : Config := { narrow with leaseDuration := ⟨10000000600⟩, renewDeadline := ⟨10000000500⟩ }

/-- The lease is created and held. Another replica has it when a window opens, and still has it in
the last millisecond of the window. -/
def outlasting : List Event :=
  [.answer (.read (.ok none)), .answer (.written (.ok ())), .hold false,
    .pass 2000000000, .wake ⟨2, 0⟩, .answer (.read (.ok (some rivalLease))),
    .pass 4000000000, .wake ⟨4, 0⟩, .pass 12000000600, .answer (.read (.ok (some rivalLease)))]

/-- On a clock that shows nanoseconds the timer of a window can fire after the lease duration, and
the holder writes over the record of the other replica before it does. -/
theorem fine_steals_back :
    fine.renewDeadline.nanos < fine.leaseDuration.nanos ∧
    ¬NeverSteals ⟨"first", fine, none⟩ 1 := by
  refine ⟨by decide, fun never => ?_⟩
  have replaced : (runFrom (step 1) (begin ⟨"first", fine, none⟩ false ⟨0, 0⟩ 0) outlasting).map
      (fun t => (t.campaign.elector.identity, t.replaced)) =
        some ("first", [.held { holderIdentity := some "second" }]) := by
    decide +kernel
  obtain ⟨t, run, shown⟩ := Option.map_eq_some_iff.1 replaced
  obtain ⟨identity, replaced⟩ := Prod.mk.inj shown
  have yields := never false ⟨0, 0⟩ 0 outlasting t (by decide) (by decide) run
  have own := yields.replaced (.held { holderIdentity := some "second" }) (by simp [replaced])
  rw [identity] at own
  exact absurd own (by decide)

end Incumbency

end GatedManager.Election
