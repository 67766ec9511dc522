import GatedManager.Proofs.Election.Minutes
import GatedManager.Proofs.Time.Timer

/-!
# The timetable of a holder

A replica that holds the lease keeps to a timetable. A window opens one retry period after holding
began or after the attempt that closed the window before. In an open window, each attempt begins
one retry period after the one before it has failed. When the renew deadline has passed since the
window opened, the lease is lost, and it is lost at no other time. Only an attempt that gets the
lease closes a window before that: what else the API says, how late it says it, and whether it says
anything at all makes no difference.

This holds for durations of whole milliseconds and for a holder that is not cancelled. There is one
exception: a process that ends when the counter of holder changes overflows loses nothing any more.
-/

namespace GatedManager.Election

open Instant (nanosPerMilli)

/-- Whether the timers of a holder count whole milliseconds. -/
structure Config.IsWhole (config : Config) : Prop where
  renew : nanosPerMilli ∣ config.renewDeadline.nanos
  retry : nanosPerMilli ∣ config.retryPeriod.nanos

/-- Whether a mark is of an attempt that has not got the lease. -/
def Mark.isFruitless : Mark → Bool
  | began _ => true
  | sent _ => true
  | ended _ held => !held
  | _ => false

namespace Minuted

/-! ### The timetable -/

/-- What a timetable has next: what comes at an instant unless an answer comes first. -/
structure Entry where
  due : Instant
  marks : List Mark

namespace Entry

/-- A window opens, and its first attempt begins. -/
def opening (now : Instant) : Entry := ⟨now, [.began now, .opened now]⟩

/-- A further attempt begins. -/
def attempt (now : Instant) : Entry := ⟨now, [.began now]⟩

/-- The lease is lost. -/
def loss (now : Instant) : Entry := ⟨now, [.returned now .lost]⟩

end Entry

/-- When the window opened that is open. An attempt that gets the lease closes it. -/
def window? : List Mark → Option Instant
  | .opened opened :: _ => some opened
  | .began _ :: earlier => window? earlier
  | .sent _ :: earlier => window? earlier
  | .ended _ false :: earlier => window? earlier
  | _ => none

/-- Whether an attempt is under way. -/
def isTrying : List Mark → Bool
  | .began _ :: _ => true
  | .sent _ :: _ => true
  | _ => false

def next? (config : Config) (minutes : List Mark) : Option Entry :=
  match minutes with
  | .entered since :: _ => some (.opening (since + config.retryPeriod.nanos))
  | .ended since true :: _ => some (.opening (since + config.retryPeriod.nanos))
  | .ended failed false :: _ => (window? minutes).map fun opened =>
    if failed + config.retryPeriod.nanos < opened + config.renewDeadline.nanos then
      .attempt (failed + config.retryPeriod.nanos)
    else .loss (opened + config.renewDeadline.nanos)
  | .began _ :: _ => (window? minutes).map fun opened => .loss (opened + config.renewDeadline.nanos)
  | .sent _ :: _ => (window? minutes).map fun opened => .loss (opened + config.renewDeadline.nanos)
  | _ => none

/-- The minutes of a holder that keeps to the timetable. Answers come before what is next. -/
inductive Scheduled (config : Config) (start : Instant) : List Mark → Prop
  | entered : Scheduled config start [.entered start]
  | next {minutes : List Mark} {entry : Entry} (before : Scheduled config start minutes)
      (is_next : next? config minutes = some entry) :
      Scheduled config start (entry.marks ++ minutes)
  /-- An attempt that has read the lease writes it. -/
  | sent {minutes : List Mark} {entry : Entry} {now : Instant}
      (before : Scheduled config start minutes) (tries : isTrying minutes)
      (is_next : next? config minutes = some entry) (early : now ≤ entry.due) :
      Scheduled config start (.sent now :: minutes)
  | ended {minutes : List Mark} {entry : Entry} {now : Instant} (held : Bool)
      (before : Scheduled config start minutes) (tries : isTrying minutes)
      (is_next : next? config minutes = some entry) (early : now ≤ entry.due) :
      Scheduled config start (.ended now held :: minutes)

variable {config : Config} {start now since : Instant} {minutes : List Mark} {entry : Entry}

theorem next?_of_isTrying (tries : isTrying minutes) (window : window? minutes = some since) :
    next? config minutes = some (.loss (since + config.renewDeadline.nanos)) := by
  match minutes, tries with
  | .began _ :: _, _ => rw [next?, window, Option.map_some]
  | .sent _ :: _, _ => rw [next?, window, Option.map_some]

theorem next?_of_failed {failed : Instant} (window : window? minutes = some since) :
    next? config (.ended failed false :: minutes) = some
      (if failed + config.retryPeriod.nanos < since + config.renewDeadline.nanos then
        .attempt (failed + config.retryPeriod.nanos)
      else .loss (since + config.renewDeadline.nanos)) := by
  rw [next?, window?, window, Option.map_some]

/-- What is next is counted from a mark of the minutes, a loss from the opening of the window. -/
theorem next?_cases (is_next : next? config minutes = some entry) :
    (∃ mark ∈ minutes, entry = .opening (mark.now + config.retryPeriod.nanos) ∨
      entry = .attempt (mark.now + config.retryPeriod.nanos)) ∨
    ∃ opened, window? minutes = some opened ∧
      entry = .loss (opened + config.renewDeadline.nanos) := by
  match minutes, is_next with
  | .entered since :: earlier, rfl =>
      exact .inl ⟨.entered since, List.mem_cons_self .., .inl rfl⟩
  | .ended since true :: earlier, rfl =>
      exact .inl ⟨.ended since true, List.mem_cons_self .., .inl rfl⟩
  | .ended failed false :: earlier, is_next =>
      obtain ⟨opened, window, rfl⟩ := Option.map_eq_some_iff.1 is_next
      split
      case isTrue => exact .inl ⟨.ended failed false, List.mem_cons_self .., .inr rfl⟩
      case isFalse => exact .inr ⟨opened, window, rfl⟩
  | .began now :: earlier, is_next =>
      obtain ⟨opened, window, rfl⟩ := Option.map_eq_some_iff.1 is_next
      exact .inr ⟨opened, window, rfl⟩
  | .sent now :: earlier, is_next =>
      obtain ⟨opened, window, rfl⟩ := Option.map_eq_some_iff.1 is_next
      exact .inr ⟨opened, window, rfl⟩

/-- An open window goes on with the attempts that it has had, and none of them has got the lease. -/
theorem of_window? (window : window? minutes = some since) :
    ∃ recent earlier, minutes = recent ++ .opened since :: earlier ∧
      ∀ mark ∈ recent, mark.isFruitless := by
  fun_induction window? minutes with
  | case1 now earlier =>
      obtain rfl := Option.some.inj window
      exact ⟨[], earlier, rfl, by simp⟩
  | case2 now earlier ih =>
      obtain ⟨recent, older, rfl, fruitless⟩ := ih window
      exact ⟨.began now :: recent, older, rfl, List.forall_mem_cons.2 ⟨rfl, fruitless⟩⟩
  | case3 now earlier ih =>
      obtain ⟨recent, older, rfl, fruitless⟩ := ih window
      exact ⟨.sent now :: recent, older, rfl, List.forall_mem_cons.2 ⟨rfl, fruitless⟩⟩
  | case4 now earlier ih =>
      obtain ⟨recent, older, rfl, fruitless⟩ := ih window
      exact ⟨.ended now false :: recent, older, rfl, List.forall_mem_cons.2 ⟨rfl, fruitless⟩⟩
  | case5 => cases window

theorem mem_of_window? (window : window? minutes = some since) : .opened since ∈ minutes := by
  obtain ⟨recent, earlier, rfl, -⟩ := of_window? window
  exact List.mem_append_right _ (List.mem_cons_self ..)

/-- A timetable has nothing after the loss of the lease, which only the end of an open window
brings. -/
theorem Scheduled.of_returned {outcome : Outcome} {earlier : List Mark}
    (h : Scheduled config start minutes) (ends : minutes = .returned now outcome :: earlier) :
    outcome = .lost ∧ ∃ opened, window? earlier = some opened ∧
      now = opened + config.renewDeadline.nanos := by
  cases h with
  | entered => cases ends
  | sent before tries is_next early => cases ends
  | ended held before tries is_next early => cases ends
  | next before is_next =>
      rcases next?_cases is_next with ⟨mark, -, rfl | rfl⟩ | ⟨opened, window, rfl⟩
      · cases ends
      · cases ends
      · cases ends
        exact ⟨rfl, opened, window, rfl⟩

theorem due_dvd (whole : config.IsWhole) (dated : Dated nanosPerMilli minutes now)
    (is_next : next? config minutes = some entry) : nanosPerMilli ∣ entry.due := by
  rcases next?_cases is_next with ⟨mark, taken, rfl | rfl⟩ | ⟨opened, window, rfl⟩
  · exact Nat.dvd_add (dated.whole mark taken) whole.retry
  · exact Nat.dvd_add (dated.whole mark taken) whole.retry
  · exact Nat.dvd_add (dated.whole _ (mem_of_window? window)) whole.renew

/-! ### A holder that is not cancelled keeps to it -/

/-- The stage of a holder and what its minutes say. -/
inductive Stands (config : Config) (minutes : List Mark) : Stage → Prop
  | resting {wake : Instant} (is_next : next? config minutes = some (.opening wake)) :
      Stands config minutes (.resting wake)
  | trying {opened : Instant} {attempt : Attempt} (tries : isTrying minutes)
      (window : window? minutes = some opened) :
      Stands config minutes
        (.renewing (opened + config.renewDeadline.nanos) (.answer attempt))
  | pausing {opened wake : Instant} (window : window? minutes = some opened)
      (is_next : next? config minutes = some
        (if wake < opened + config.renewDeadline.nanos then .attempt wake
          else .loss (opened + config.renewDeadline.nanos))) :
      Stands config minutes (.renewing (opened + config.renewDeadline.nanos) (.pause wake))
  | lost {now : Instant} {earlier : List Mark} (ends : minutes = .returned now .lost :: earlier) :
      Stands config minutes (.ended .lost)

/-- Whether a holder has kept to the timetable so far. -/
structure OnTime (config : Config) (start : Instant) (t : Minuted) : Prop where
  scheduled : Scheduled config start t.minutes
  stands : Stands config t.minutes t.campaign.stage
  early : ∀ entry, next? config t.minutes = some entry → t.now ≤ entry.due

/-- What is known of a holder that has not been cancelled. -/
structure Sound (config : Config) (start : Instant) (t : Minuted) : Prop
    extends OnTime config start t where
  config_eq : t.campaign.elector.config = config
  past : t.campaign.elector.RemembersPast t.now
  dated : Dated nanosPerMilli t.minutes t.now
  crash : ∀ crash, t.crash = some crash → crash = .counterOverflow ∧ isTrying t.minutes

variable {t t' : Minuted} {event : Event}

theorem OnTime.of_attempt? {attempt : Attempt} (h : OnTime config start t)
    (waits : t.campaign.attempt? = some attempt) :
    isTrying t.minutes ∧ ∃ opened, window? t.minutes = some opened ∧
      t.campaign.stage =
        .renewing (opened + config.renewDeadline.nanos) (.answer attempt) := by
  have stands := h.stands
  rcases Campaign.attempt?_eq_some_iff.1 waits with stage | ⟨deadline, stage⟩
  · rw [stage] at stands
    cases stands
  · rw [stage] at stands
    cases stands with
    | @trying opened attempt tries window => exact ⟨tries, opened, window, stage⟩

/-- The next timer of a holder is that of its timetable. -/
theorem OnTime.timer?_eq (h : OnTime config start t) :
    t.campaign.timer? = (next? config t.minutes).map Entry.due := by
  cases stage : t.campaign.stage with
  | acquiring wait => cases stage ▸ h.stands
  | resting wake =>
      cases stage ▸ h.stands with
      | resting is_next => simp [Campaign.timer?, stage, is_next, Entry.opening]
  | renewing deadline wait =>
      cases stage ▸ h.stands with
      | trying tries window =>
          simp [Campaign.timer?, stage, next?_of_isTrying tries window, Entry.loss]
      | pausing window is_next =>
          rw [is_next]
          simp only [Campaign.timer?, stage]
          split
          case isTrue first => simp [Entry.attempt, Nat.min_eq_right (Nat.le_of_lt first)]
          case isFalse last => simp [Entry.loss, Nat.min_eq_left (Nat.le_of_not_lt last)]
  | ended outcome =>
      cases stage ▸ h.stands with
      | lost ends => simp [Campaign.timer?, stage, ends, next?]

theorem OnTime.pass (h : OnTime config start t)
    (early : ∀ fires, t.campaign.timer? = some fires → now ≤ fires) :
    OnTime config start { t with now := now } := by
  refine ⟨h.scheduled, h.stands, fun entry is_next => early entry.due ?_⟩
  rw [h.timer?_eq, is_next, Option.map_some]

theorem OnTime.sent {elector : Elector} {attempt next : Attempt} (h : OnTime config start t)
    (waits : t.campaign.attempt? = some attempt) :
    OnTime config start { t with
      campaign := t.campaign.attempting elector next
      minutes := .sent t.now :: t.minutes } := by
  obtain ⟨tries, opened, window, stage⟩ := h.of_attempt? waits
  have is_next : next? config t.minutes = _ := next?_of_isTrying tries window
  have early := h.early _ is_next
  refine ⟨.sent h.scheduled tries is_next early, ?_, ?_⟩
  · simp only [Campaign.attempting, stage]
    exact .trying rfl window
  · intro entry still
    have same : next? config (.sent t.now :: t.minutes) = _ := next?_of_isTrying rfl window
    obtain rfl := Option.some.inj (same.symm.trans still)
    exact early

/-- An attempt that has the lease closes its window, and the next rest begins. After any other one
the window stays open. -/
theorem OnTime.ended {elector : Elector} {attempt : Attempt} {held : Bool}
    (h : OnTime config start t) (waits : t.campaign.attempt? = some attempt)
    (uncancelled : t.campaign.cancelled = false)
    (pause : Campaign.pauseFrom elector t.now = t.now + config.retryPeriod.nanos) :
    OnTime config start { t with
      campaign := t.campaign.conclude elector held t.now
      minutes := (t.campaign.conclude elector held t.now).marksOfOutcome t.now ++
        .ended t.now held :: t.minutes } := by
  obtain ⟨tries, opened, window, stage⟩ := h.of_attempt? waits
  have is_next : next? config t.minutes = _ := next?_of_isTrying tries window
  have early := h.early _ is_next
  have scheduled := Scheduled.ended held h.scheduled tries is_next early
  cases held with
  | true =>
      have rests : t.campaign.conclude elector true t.now =
          ⟨elector, false, .resting (t.now + config.retryPeriod.nanos)⟩ := by
        simp [Campaign.conclude, stage, uncancelled, pause]
      rw [rests]
      refine ⟨scheduled, .resting rfl, ?_⟩
      rintro _ ⟨⟩
      exact Nat.le_add_right _ _
  | false =>
      have pauses : t.campaign.conclude elector false t.now =
          ⟨elector, false, .renewing (opened + config.renewDeadline.nanos)
            (.pause (t.now + config.retryPeriod.nanos))⟩ := by
        simp [Campaign.conclude, stage, uncancelled, pause]
      have following : next? config (.ended t.now false :: t.minutes) = _ :=
        next?_of_failed window
      rw [pauses]
      refine ⟨scheduled, .pausing window following, ?_⟩
      intro entry is_entry
      obtain rfl := Option.some.inj (following.symm.trans is_entry)
      show t.now ≤ Entry.due (if _ then _ else _)
      split
      · exact Nat.le_add_right _ _
      · exact early

theorem OnTime.is_opening {wake : Instant} (h : OnTime config start t)
    (rests : t.campaign.stage = .resting wake) (due : wake ≤ t.now) :
    next? config t.minutes = some (.opening t.now) := by
  cases rests ▸ h.stands with
  | resting is_next =>
      obtain rfl : wake = t.now := Nat.le_antisymm due (h.early _ is_next)
      exact is_next

theorem OnTime.is_attempt {deadline wake : Instant} (h : OnTime config start t)
    (pauses : t.campaign.stage = .renewing deadline (.pause wake)) (early : t.now < deadline)
    (due : wake ≤ t.now) : next? config t.minutes = some (.attempt t.now) := by
  cases pauses ▸ h.stands with
  | pausing window is_next =>
      rw [if_pos (Nat.lt_of_le_of_lt due early)] at is_next
      obtain rfl : wake = t.now := Nat.le_antisymm due (h.early _ is_next)
      exact is_next

theorem OnTime.is_loss {deadline : Instant} {wait : Wait} (h : OnTime config start t)
    (renews : t.campaign.stage = .renewing deadline wait) (closed : deadline ≤ t.now) :
    next? config t.minutes = some (.loss t.now) := by
  have is_loss : next? config t.minutes = some (.loss deadline) := by
    cases renews ▸ h.stands with
    | trying tries window => exact next?_of_isTrying tries window
    | pausing window is_next =>
        rw [is_next, if_neg]
        intro first
        rw [if_pos first] at is_next
        exact absurd (Nat.lt_of_lt_of_le first closed) (Nat.not_lt.2 (h.early _ is_next))
  obtain rfl : deadline = t.now := Nat.le_antisymm closed (h.early _ is_loss)
  exact is_loss

/-- When a timer of a holder fires, what is next in the timetable comes. -/
theorem OnTime.keeps {grain : Nat} {clock : { t : Timestamp // t.IsValid }}
    (h : OnTime config start t) (wakes : Advances grain t (.wake clock) t') :
    ∃ entry, next? config t.minutes = some entry ∧ t'.minutes = entry.marks ++ t.minutes := by
  cases wakes with
  | retried pauses due => cases pauses ▸ h.stands
  | opened rests due => exact ⟨.opening t.now, h.is_opening rests due, rfl⟩
  | again pauses early due => exact ⟨.attempt t.now, h.is_attempt pauses early due, rfl⟩
  | lost renews closed unnoticed => exact ⟨.loss t.now, h.is_loss renews closed, rfl⟩

theorem OnTime.opened {clock : Timestamp} {wake : Instant} (h : OnTime config start t)
    (rests : t.campaign.stage = .resting wake) (due : wake ≤ t.now)
    (deadline : Instant.timer t.now t.campaign.elector.config.renewDeadline =
      t.now + config.renewDeadline.nanos) :
    OnTime config start { t with
      campaign := { t.campaign with
        stage := .renewing (Instant.timer t.now t.campaign.elector.config.renewDeadline)
          (.answer (.reading clock)) }
      minutes := .began t.now :: .opened t.now :: t.minutes } := by
  refine ⟨.next h.scheduled (h.is_opening rests due), ?_, ?_⟩
  · rw [deadline]
    exact .trying rfl rfl
  · rintro _ ⟨⟩
    exact Nat.le_add_right _ _

theorem OnTime.again {clock : Timestamp} {deadline wake : Instant} (h : OnTime config start t)
    (pauses : t.campaign.stage = .renewing deadline (.pause wake)) (early : t.now < deadline)
    (due : wake ≤ t.now) :
    OnTime config start { t with
      campaign := { t.campaign with stage := .renewing deadline (.answer (.reading clock)) }
      minutes := .began t.now :: t.minutes } := by
  have scheduled := Scheduled.next h.scheduled (h.is_attempt pauses early due)
  cases pauses ▸ h.stands with
  | pausing window is_next =>
      refine ⟨scheduled, .trying rfl window, fun entry is_entry => ?_⟩
      have following : next? config (.began t.now :: t.minutes) = _ :=
        next?_of_isTrying rfl window
      obtain rfl := Option.some.inj (following.symm.trans is_entry)
      exact Nat.le_of_lt early

theorem OnTime.lost {deadline : Instant} {wait : Wait} (h : OnTime config start t)
    (renews : t.campaign.stage = .renewing deadline wait) (closed : deadline ≤ t.now) :
    OnTime config start { t with
      campaign := { t.campaign with stage := .ended .lost }
      minutes := .returned t.now .lost :: t.minutes } := by
  refine ⟨.next h.scheduled (h.is_loss renews closed), .lost rfl, ?_⟩
  rintro _ ⟨⟩

theorem OnTime.advance (h : OnTime config start t) (whole : config.IsWhole)
    (shown : nanosPerMilli ∣ t.now) (fits : config.Fits t.now)
    (config_eq : t.campaign.elector.config = config)
    (advances : Advances nanosPerMilli t event t') (uncancelled : t'.campaign.cancelled = false) :
    OnTime config start t' := by
  have before := advances.uncancelled uncancelled
  cases advances with
  | passed later whole early => exact h.pass early
  | crashed waits crashes => exact ⟨h.scheduled, h.stands, h.early⟩
  | sent waits write advances => exact h.sent waits
  | @ended attempt answer elector result held waits advances is_held =>
      refine h.ended waits before ?_
      rw [Campaign.pauseFrom, advances.frame.2, config_eq,
        Instant.timer_of_dvd shown whole.retry fits.retry]
  | retried pauses due => cases pauses ▸ h.stands
  | opened rests due =>
      refine h.opened rests due ?_
      rw [config_eq, Instant.timer_of_dvd shown whole.renew fits.renew]
  | again pauses early due => exact h.again pauses early due
  | lost renews closed unnoticed => exact h.lost renews closed
  | cancelled open_ => cases uncancelled
  | noticed cancelled idles => exact absurd cancelled (by simp [before])

theorem Sound.step (h : Sound config start t) (whole : config.IsWhole) (fits : config.Fits t.now)
    (hs : t.step nanosPerMilli event = some t') (uncancelled : t'.campaign.cancelled = false) :
    Sound config start t' := by
  obtain ⟨alive, advances⟩ := advances_of_step hs
  refine ⟨h.advance whole h.dated.shown fits h.config_eq advances uncancelled,
    advances.config_eq.trans h.config_eq, advances.remembersPast h.past, h.dated.advance advances,
    ?_⟩
  intro crash is_crash
  cases advances with
  | crashed waits crashes =>
      obtain rfl := Option.some.inj is_crash
      exact ⟨Elector.eq_counterOverflow_of_advance h.past (h.config_eq.symm ▸ fits.lease) crashes,
        (h.of_attempt? waits).1⟩
  | _ => cases alive.symm.trans is_crash

theorem sound_hold {elector : Elector} (shown : nanosPerMilli ∣ start)
    (fits : elector.config.Fits start) (whole : elector.config.IsWhole)
    (past : elector.RemembersPast start) :
    Sound elector.config start (hold elector false start) := by
  have rests : (hold elector false start).campaign.stage =
      .resting (start + elector.config.retryPeriod.nanos) :=
    congrArg Stage.resting (Instant.timer_of_dvd shown whole.retry fits.retry)
  refine ⟨⟨.entered, ?_, ?_⟩, rfl, past, ⟨by simp [hold], ?_, ?_, shown⟩, ?_⟩
  · rw [rests]
    exact .resting rfl
  · rintro _ ⟨⟩
    exact Nat.le_add_right _ _
  · simp [hold, Mark.now]
  · simpa [hold, Mark.now] using shown
  · rintro _ ⟨⟩

/-- An earlier state was not cancelled either, and what fits later has fitted before. So every state
of a run that ends like this is sound. -/
theorem Sound.run {events : List Event} (h : Sound config start t) (whole : config.IsWhole)
    (run : runFrom (Minuted.step nanosPerMilli) t events = some t')
    (uncancelled : t'.campaign.cancelled = false) (fits : config.Fits t'.now) :
    Sound config start t' := by
  refine runFrom_invariant
    (P := fun t => t.campaign.cancelled = false → config.Fits t.now → Sound config start t)
    (fun s event s' ih hs uncancelled fits => ?_) (fun _ _ => h) run uncancelled fits
  obtain ⟨-, advances⟩ := advances_of_step hs
  have before := fits.before advances.now_le
  exact (ih (advances.uncancelled uncancelled) before).step whole before hs uncancelled

/-! ### The lease is lost on time -/

/-- What a timetable means for a holder at any time. -/
structure Punctual (config : Config) (start : Instant) (t : Minuted) : Prop where
  dated : Dated nanosPerMilli t.minutes t.now
  scheduled : Scheduled config start t.minutes
  /-- Nothing next is overdue. -/
  early : ∀ entry, next? config t.minutes = some entry → t.now ≤ entry.due
  /-- If no answer comes before, what is next comes. -/
  proceeds : t.crash = none → ∀ entry, next? config t.minutes = some entry → ∀ clock, ∃ t',
    runFrom (step nanosPerMilli) t [.pass entry.due, .wake clock] = some t' ∧
      t'.minutes = entry.marks ++ t.minutes
  /-- As long as holding goes on, something is next. -/
  goes_on : t.campaign.outcome? = none → (next? config t.minutes).isSome
  /-- Holding ends with the loss of the lease, one renew deadline after the opening of a window in
  which no attempt has got it. -/
  ends : ∀ outcome, t.campaign.outcome? = some outcome → outcome = .lost ∧
    ∃ opened recent earlier, (∀ mark ∈ recent, mark.isFruitless) ∧
      t.minutes = .returned (opened + config.renewDeadline.nanos) .lost ::
        (recent ++ .opened opened :: earlier)
  crash : ∀ crash, t.crash = some crash → crash = .counterOverflow ∧ isTrying t.minutes

/-- A holder that is not cancelled wakes up when its timer fires. -/
theorem Sound.proceeds (h : Sound config start t) (whole : config.IsWhole)
    (uncancelled : t.campaign.cancelled = false) (alive : t.crash = none)
    (is_next : next? config t.minutes = some entry) (clock : { t : Timestamp // t.IsValid }) :
    ∃ t', runFrom (Minuted.step nanosPerMilli) t [.pass entry.due, .wake clock] = some t' ∧
      t'.minutes = entry.marks ++ t.minutes := by
  have timer : t.campaign.timer? = some entry.due := by
    rw [h.timer?_eq, is_next, Option.map_some]
  have shown : nanosPerMilli ∣ entry.due := due_dvd whole h.dated is_next
  have timer_late : ∀ fires, t.campaign.timer? = some fires → entry.due ≤ fires := fun fires is =>
    Nat.le_of_eq (Option.some.inj (timer.symm.trans is))
  have passes := step_pass alive (h.early entry is_next) shown timer_late
  have due : t.campaign.isDue entry.due = true := by
    simp [Campaign.isDue, uncancelled, timer]
  obtain ⟨t', wakes⟩ := exists_wake (t := { t with now := entry.due }) alive due clock
  refine ⟨t', runFrom_step passes (runFrom_step wakes (runFrom_nil t')), ?_⟩
  obtain ⟨same, is_same, minutes_eq⟩ := (h.pass timer_late).keeps (advances_of_step wakes).2
  obtain rfl := Option.some.inj (is_next.symm.trans is_same)
  exact minutes_eq

theorem OnTime.isSome_next? (h : OnTime config start t) (open_ : t.campaign.outcome? = none) :
    (next? config t.minutes).isSome := by
  cases stage : t.campaign.stage with
  | acquiring wait => cases stage ▸ h.stands
  | resting wake =>
      cases stage ▸ h.stands with
      | resting is_next => exact Option.isSome_of_eq_some is_next
  | renewing deadline wait =>
      cases stage ▸ h.stands with
      | trying tries window => exact Option.isSome_of_eq_some (next?_of_isTrying tries window)
      | pausing window is_next => exact Option.isSome_of_eq_some is_next
  | ended outcome => simp [Campaign.outcome?, stage] at open_

theorem OnTime.ends {outcome : Outcome} (h : OnTime config start t)
    (is_outcome : t.campaign.outcome? = some outcome) :
    outcome = .lost ∧ ∃ opened recent earlier, (∀ mark ∈ recent, mark.isFruitless) ∧
      t.minutes = .returned (opened + config.renewDeadline.nanos) .lost ::
        (recent ++ .opened opened :: earlier) := by
  have stage := Campaign.outcome?_eq_some_iff.1 is_outcome
  cases stage ▸ h.stands with
  | lost ends =>
      obtain ⟨-, opened, window, rfl⟩ := h.scheduled.of_returned ends
      obtain ⟨recent, earlier, rfl, fruitless⟩ := of_window? window
      exact ⟨rfl, opened, recent, earlier, fruitless, ends⟩

/-- The lease is lost one renew deadline after the opening of the first window in which no attempt
gets it, and not before. -/
theorem lost_on_time (elector : Elector) (start : Instant) (events : List Event) (t : Minuted)
    (whole : elector.config.IsWhole) (shown : nanosPerMilli ∣ start)
    (past : elector.RemembersPast start)
    (run : runFrom (step nanosPerMilli) (hold elector false start) events = some t)
    (uncancelled : t.campaign.cancelled = false) (fits : elector.config.Fits t.now) :
    Punctual elector.config start t := by
  have sound := (sound_hold shown (fits.before (now_le_of_run run)) whole past).run whole run
    uncancelled fits
  exact
    { dated := sound.dated
      scheduled := sound.scheduled
      early := sound.early
      proceeds := fun alive entry is_next clock =>
        sound.proceeds whole uncancelled alive is_next clock
      goes_on := sound.isSome_next?
      ends := fun outcome is_outcome => sound.ends is_outcome
      crash := sound.crash }

/-- The server refuses the first attempt of a window and does not answer the second. -/
def outage : List Event :=
  [.pass 2000000000, .wake (Timestamp.ofUnix 2),
    .pass 3000000000, .answer (.read (.error (.refused 500 "InternalError"))),
    .pass 5000000000, .wake (Timestamp.ofUnix 5),
    .pass 12000000000, .wake (Timestamp.ofUnix 12)]

theorem outage_loses :
    ∃ t, runFrom (step nanosPerMilli) (hold ⟨"first", {}, none⟩ false 0) outage = some t ∧
      t.minutes =
        [.returned 12000000000 .lost, .began 5000000000, .ended 3000000000 false,
          .began 2000000000, .opened 2000000000, .entered 0] ∧
      Punctual {} 0 t := by
  have runs : (runFrom (step nanosPerMilli) (hold ⟨"first", {}, none⟩ false 0) outage).map
      (fun t => (t.minutes, t.now, t.campaign.cancelled)) =
        some ([.returned 12000000000 .lost, .began 5000000000, .ended 3000000000 false,
          .began 2000000000, .opened 2000000000, .entered 0], 12000000000, false) := by
    decide +kernel
  obtain ⟨t, run, shows⟩ := Option.map_eq_some_iff.1 runs
  obtain ⟨minutes_eq, now_eq, uncancelled⟩ : t.minutes = _ ∧ t.now = _ ∧ _ := by
    simpa using shows
  have fits : Config.Fits {} t.now := by
    rw [now_eq]
    exact ⟨by decide, by decide, by decide⟩
  have whole : Config.IsWhole {} := ⟨by decide, by decide⟩
  exact ⟨t, run, minutes_eq,
    lost_on_time ⟨"first", {}, none⟩ 0 outage t whole (by decide) nofun run uncancelled fits⟩

/-- A lease that nobody holds, with a counter of holder changes that has reached its end. -/
def spentLease : Api.Lease := ⟨{}, some ⟨none, none, none, some Json.int32Max, none⟩⟩

/-- The first attempt of a window reads such a lease. -/
def spent : List Event :=
  [.pass 2000000000, .wake (Timestamp.ofUnix 2),
    .answer (.read (.ok (some spentLease)))]

theorem spent_never_lost :
    ∃ t, runFrom (step nanosPerMilli) (hold ⟨"first", {}, none⟩ false 0) spent = some t ∧
      t.minutes = [.began 2000000000, .opened 2000000000, .entered 0] ∧
      t.crash = some .counterOverflow ∧
      ∀ events t', runFrom (step nanosPerMilli) t events = some t' →
        t'.campaign.outcome? ≠ some .lost := by
  have runs : (runFrom (step nanosPerMilli) (hold ⟨"first", {}, none⟩ false 0) spent).map
      (fun t => (t.minutes, t.crash, t.campaign.outcome?)) =
        some ([.began 2000000000, .opened 2000000000, .entered 0], some .counterOverflow,
          none) := by
    decide +kernel
  obtain ⟨t, run, shows⟩ := Option.map_eq_some_iff.1 runs
  obtain ⟨minutes_eq, crashed, open_⟩ : t.minutes = _ ∧ t.crash = _ ∧ t.campaign.outcome? = _ := by
    simpa using shows
  refine ⟨t, run, minutes_eq, crashed, fun events t' following => ?_⟩
  cases events with
  | nil =>
      obtain rfl : t = t' := by simpa using following
      simp [open_]
  | cons event events => simp [runFrom_cons, Minuted.step, crashed] at following

end Minuted

end GatedManager.Election
