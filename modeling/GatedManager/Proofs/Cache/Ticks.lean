import GatedManager.Proofs.Cache.Life
import Mathlib.Data.List.Nodup
import Mathlib.Data.String.Basic

/-!
# How often a cache ticks

While its informers run, a cache ticks at the end of each sync period, and each of its namespaces
counts the ticks. None is lost and none comes twice, whatever the watches bring. They end
with the informers, and these end without being told to when an object without a name comes. A cache
without any kind of objects has no informers, so it does not tick at all.
-/

namespace GatedManager

namespace Series

variable {label other : String} {f : Nat → Nat} {series : Series}

/-- The labels ascend, so each of them is there once. -/
def Ascends (series : Series) : Prop := series.Pairwise (·.1 < ·.1)

theorem mem_modify {entry : String × Nat} (h : entry ∈ modify label f series) :
    entry.1 = label ∨ entry ∈ series := by
  induction series with
  | nil => exact .inl (congrArg Prod.fst (List.mem_singleton.1 h))
  | cons first rest ih =>
      simp only [modify] at h
      split at h
      case isTrue same =>
        rcases List.mem_cons.1 h with rfl | h
        · exact .inl same.symm
        · exact .inr (List.mem_cons_of_mem _ h)
      case isFalse =>
        split at h
        · rcases List.mem_cons.1 h with rfl | h
          · exact .inl rfl
          · exact .inr h
        · rcases List.mem_cons.1 h with rfl | h
          · exact .inr List.mem_cons_self
          · exact (ih h).imp_right (List.mem_cons_of_mem _)

theorem Ascends.modify (ascends : series.Ascends) (label : String) (f : Nat → Nat) :
    Ascends (modify label f series) := by
  induction series with
  | nil => exact List.pairwise_singleton _ _
  | cons first rest ih =>
      obtain ⟨before, rest_ascends⟩ := List.pairwise_cons.1 ascends
      simp only [Series.modify]
      split
      · exact List.pairwise_cons.2 ⟨before, rest_ascends⟩
      split
      case isTrue less =>
        refine List.pairwise_cons.2 ⟨?_, ascends⟩
        intro entry h
        rcases List.mem_cons.1 h with rfl | h
        · exact less
        · exact lt_trans less (before entry h)
      case isFalse different not_less =>
        refine List.pairwise_cons.2 ⟨?_, ih rest_ascends⟩
        intro entry h
        rcases mem_modify h with same | h
        · exact same ▸ lt_of_le_of_ne (not_lt.1 not_less) (Ne.symm different)
        · exact before entry h

theorem get_cons (first : String × Nat) (rest : Series) :
    get label (first :: rest) = if label = first.1 then first.2 else get label rest := by
  obtain ⟨known, value⟩ := first
  simp only [get, List.lookup_cons]
  split
  case h_1 same => simp [eq_of_beq same]
  case h_2 different => simp [ne_of_beq_false different]

theorem get_eq_zero (absent : ∀ entry ∈ series, label ≠ entry.1) : get label series = 0 := by
  induction series with
  | nil => rfl
  | cons first rest ih =>
      obtain ⟨here, there⟩ := List.forall_mem_cons.1 absent
      rw [get_cons, if_neg here, ih there]

/-- Where the labels ascend, a change of one series leaves the others alone. -/
theorem get_modify (ascends : series.Ascends) (label : String) (f : Nat → Nat) (other : String) :
    get other (modify label f series) =
      if other = label then f (get label series) else get other series := by
  induction series with
  | nil => rw [modify, get_cons]; rfl
  | cons first rest ih =>
      obtain ⟨before, rest_ascends⟩ := List.pairwise_cons.1 ascends
      simp only [modify]
      split
      case isTrue same =>
        subst same
        simp only [get_cons, if_true]
        split <;> rfl
      case isFalse different =>
        split
        case isTrue less =>
          have absent : get label (first :: rest) = 0 := by
            refine get_eq_zero (List.forall_mem_cons.2 ⟨different, ?_⟩)
            exact fun entry h => ne_of_lt (lt_trans less (before entry h))
          rw [get_cons, absent]
        case isFalse =>
          simp only [get_cons, ih rest_ascends, if_neg different]
          split
          case isTrue same => rw [if_neg fun eq => different (eq.symm.trans same)]
          case isFalse => rfl

end Series

namespace Metrics

variable {m : Metrics}

/-- Each name in a list counts once more for each time it is there. -/
theorem get_foldl_recordResync (ascends : m.resyncs.Ascends) (names : List String) :
    (names.foldl recordResync m).resyncs.Ascends ∧
      ∀ name, (names.foldl recordResync m).resyncs.get name =
        m.resyncs.get name + names.count name := by
  induction names generalizing m with
  | nil => exact ⟨ascends, fun _ => rfl⟩
  | cons first rest ih =>
      have one_more : (m.recordResync first).resyncs.Ascends := ascends.modify first _
      obtain ⟨after, counts⟩ := ih one_more
      refine ⟨after, fun name => ?_⟩
      have one : (m.recordResync first).resyncs.get name =
          m.resyncs.get name + if first == name then 1 else 0 := by
        rw [recordResync, Series.get_modify ascends]
        by_cases same : name = first
        · simp [same]
        · simp [same, Ne.symm same]
      rw [List.foldl_cons, counts, one, List.count_cons, Nat.add_assoc,
        Nat.add_comm (rest.count name)]

end Metrics

namespace Cache.Life

/-- Whether an event ends the informers of a running cache: they are told to stop, or something has
come that they cannot take. -/
def Event.ends : Event → Bool
  | .stop => true
  | .deliver _ delivery =>
    match delivery.input with
    | .error _ => true
    | .ok _ => false
  | _ => false

variable {scheme : Scheme} {options : Options} {c : Cache} {l l' : Life} {event : Event}
  {events : List Event}

/-! ### How long the informers run -/

/-- Once they have begun, the informers run until an event ends them. -/
theorem Advances.isRunning_iff (h : Advances l event l') (begun : l.cache.phase ≠ .idle) :
    l'.cache.phase ≠ .idle ∧ (l'.isRunning ↔ l.isRunning ∧ event.ends = false) := by
  cases h with
  | start idle => exact absurd idle begun
  | overflow idle => exact absurd idle begun
  | pass later shown before => exact ⟨begun, by simp [isRunning, Event.ends]⟩
  | take running known is_input =>
      exact ⟨by simpa using begun, by simp [isRunning, Event.ends, is_input]⟩
  | crash running crashes =>
      exact ⟨nofun, by simp [isRunning, Event.ends, crashes, Cache.stop]⟩
  | tick running due => exact ⟨begun, by simp [isRunning, Event.ends, Cache.tick]⟩
  | stop => exact ⟨nofun, by simp [isRunning, Event.ends, Cache.stop]⟩

theorem isRunning_run (begun : l.cache.phase ≠ .idle) (run : runFrom Life.step l events = some l') :
    l'.isRunning ↔ l.isRunning ∧ ∀ event ∈ events, event.ends = false := by
  induction events generalizing l with
  | nil =>
      obtain rfl : l = l' := by simpa using run
      simp
  | cons event events ih =>
      rw [runFrom_cons, Option.bind_eq_some_iff] at run
      obtain ⟨next, hs, run⟩ := run
      obtain ⟨still_begun, first⟩ := (advances_of_step hs).isRunning_iff begun
      rw [ih still_begun run, first, List.forall_mem_cons, and_assoc]

/-- The counts stand still after the end of the informers. -/
theorem Advances.counts_of_ended (h : Advances l event l') (ended : l.cache.phase = .ended) :
    l'.cache.phase = .ended ∧ l'.cache.sent = l.cache.sent ∧
      l'.cache.metrics = l.cache.metrics := by
  have halted : ¬l.isRunning := by simp [isRunning, ended]
  cases h with
  | start idle => exact nomatch ended.symm.trans idle
  | overflow idle => exact nomatch ended.symm.trans idle
  | pass => exact ⟨ended, rfl, rfl⟩
  | take running => exact absurd running halted
  | crash running => exact absurd running halted
  | tick running => exact absurd running halted
  | stop => exact ⟨rfl, rfl, rfl⟩

theorem counts_of_ended_run (ended : l.cache.phase = .ended)
    (run : runFrom Life.step l events = some l') :
    l'.cache.sent = l.cache.sent ∧ l'.cache.metrics = l.cache.metrics := by
  have kept : l'.cache.phase = .ended ∧ l'.cache.sent = l.cache.sent ∧
      l'.cache.metrics = l.cache.metrics := by
    refine runFrom_invariant (P := fun x => x.cache.phase = .ended ∧
      x.cache.sent = l.cache.sent ∧ x.cache.metrics = l.cache.metrics) ?_ ⟨ended, rfl, rfl⟩ run
    rintro x event x' ⟨ended, sent, metrics⟩ hs
    obtain ⟨still, sent', metrics'⟩ := (advances_of_step hs).counts_of_ended ended
    exact ⟨still, sent'.trans sent, metrics'.trans metrics⟩
  exact kept.2

/-! ### When a running cache ticks -/

/-- The end of the sync period in which the clock stands. -/
def periodEnd (l : Life) : Instant := (l.now / l.period.nanos + 1) * l.period.nanos

/-- The ticks of a cache that started at the start of the clock are on time: there has been one for
each whole period, and the next one comes with the end of the current period. -/
structure OnTime (l : Life) : Prop where
  begun : l.cache.sent * l.period.nanos ≤ l.now
  deadline_eq : l.deadline = (l.cache.sent + 1) * l.period.nanos
  before : l.now ≤ l.deadline

/-- What holds while the informers have begun at the start of the clock. -/
structure Ticking (options : Options) (l : Life) : Prop where
  options_eq : l.cache.options = options
  begun : l.cache.phase = .running 0 ∨ l.cache.phase = .ended
  ascends : l.cache.metrics.resyncs.Ascends
  counts : ∀ name ∈ options.names, l.cache.metrics.resyncs.get name = l.cache.sent
  /-- The last tick before the end of the clock may be followed by one that comes too early. -/
  onTime : l.isRunning → l.OnTime ∨ ¬Instant.onClock l.periodEnd

theorem Ticking.not_idle (h : l.Ticking options) : l.cache.phase ≠ .idle := by
  rcases h.begun with running | ended
  · exact running ▸ nofun
  · exact ended ▸ nofun

theorem nextDeadline_eq (shown : Instant.onClock (l.deadline + l.period.nanos)) :
    l.nextDeadline = l.deadline + l.period.nanos := by
  have fits : Instant.add? l.deadline l.period = some (l.deadline + l.period.nanos) :=
    Instant.add?_eq_some_iff.2 ⟨shown, rfl⟩
  rw [nextDeadline, fits]
  rfl

/-- The deadline comes at a whole millisecond, so its timer loses nothing. -/
theorem OnTime.roundUpMillis_deadline (h : l.OnTime)
    (whole : Instant.nanosPerMilli ∣ l.period.nanos) :
    Instant.roundUpMillis l.deadline = l.deadline := by
  rw [h.deadline_eq]
  exact Instant.roundUpMillis_of_dvd (Nat.dvd_mul_left_of_dvd whole _)

/-- The tick at the end of a period is on time for the next one. -/
theorem OnTime.next (h : l.OnTime) (at_end : l.now = l.deadline) :
    OnTime { l with cache := l.cache.tick, deadline := l.deadline + l.period.nanos } := by
  refine ⟨Nat.le_of_eq (h.deadline_eq.symm.trans at_end.symm), ?_, ?_⟩
  · calc l.deadline + l.period.nanos
      _ = (l.cache.sent + 1) * l.period.nanos + l.period.nanos := by rw [h.deadline_eq]
      _ = (l.cache.sent + 1 + 1) * l.period.nanos := (Nat.succ_mul _ _).symm
  · exact Nat.le_trans h.before (Nat.le_add_right _ _)

theorem OnTime.tick (h : l.OnTime) (whole : Instant.nanosPerMilli ∣ l.period.nanos)
    (positive : 0 < l.period.nanos) (due : Instant.roundUpMillis l.deadline ≤ l.now) :
    OnTime { l with cache := l.cache.tick, deadline := l.nextDeadline } ∨
      ¬Instant.onClock l.periodEnd := by
  rw [h.roundUpMillis_deadline whole] at due
  have at_end : l.now = l.deadline := Nat.le_antisymm h.before due
  by_cases shown : Instant.onClock (l.deadline + l.period.nanos)
  · rw [nextDeadline_eq shown]
    exact .inl (h.next at_end)
  · refine .inr ?_
    rwa [periodEnd, at_end, h.deadline_eq, Nat.mul_div_cancel _ positive, Nat.succ_mul,
      ← h.deadline_eq]

theorem Ticking.step (h : l.Ticking options) (whole : Instant.nanosPerMilli ∣ l.period.nanos)
    (positive : 0 < l.period.nanos) (distinct : options.names.Nodup)
    (hs : l.step event = some l') : l'.Ticking options := by
  cases advances_of_step hs with
  | start idle => exact absurd idle h.not_idle
  | overflow idle => exact absurd idle h.not_idle
  | @pass now later shown before =>
      refine ⟨h.options_eq, h.begun, h.ascends, h.counts, fun running => ?_⟩
      rcases h.onTime running with onTime | beyond
      · refine .inl ⟨Nat.le_trans onTime.begun later, onTime.deadline_eq, ?_⟩
        have in_time := before running
        rwa [onTime.roundUpMillis_deadline whole] at in_time
      · refine .inr fun shown => beyond (Instant.onClock_mono ?_ shown)
        exact Nat.mul_le_mul_right _ (Nat.succ_le_succ (Nat.div_le_div_right later))
  | @take n delivery input running known is_input =>
      obtain ⟨cells, taken⟩ := take_eq l.cache n input l.now
      rw [taken]
      refine ⟨h.options_eq, h.begun, h.ascends, h.counts, fun _ => ?_⟩
      exact (h.onTime running).imp_left fun onTime =>
        ⟨onTime.begun, onTime.deadline_eq, onTime.before⟩
  | crash running crashes =>
      exact ⟨h.options_eq, .inr rfl, h.ascends, h.counts, nofun⟩
  | tick running due =>
      obtain ⟨ascends, counts⟩ := Metrics.get_foldl_recordResync h.ascends l.cache.namespaces
      refine ⟨h.options_eq, h.begun, ascends, ?_, ?_⟩
      · intro name configured
        have once : l.cache.namespaces.count name = 1 := by
          rw [namespaces, h.options_eq]
          exact List.count_eq_one_of_mem distinct configured
        exact (counts name).trans (congrArg₂ (· + ·) (h.counts name configured) once)
      · intro _
        rcases h.onTime running with onTime | beyond
        · exact onTime.tick whole positive due
        · exact .inr beyond
  | stop => exact ⟨h.options_eq, .inr rfl, h.ascends, h.counts, nofun⟩

theorem Ticking.run (h : l.Ticking options)
    (whole : Instant.nanosPerMilli ∣ options.syncPeriod.nanos)
    (positive : 0 < options.syncPeriod.nanos) (distinct : options.names.Nodup)
    (run : runFrom Life.step l events = some l') : l'.Ticking options := by
  refine runFrom_invariant ?_ h run
  intro x event x' h hs
  have same_period : x.period = options.syncPeriod := congrArg Options.syncPeriod h.options_eq
  exact h.step (same_period ▸ whole) (same_period ▸ positive) distinct hs

theorem OnTime.sent_eq (h : l.OnTime) (between : ¬l.period.nanos ∣ l.now) :
    l.cache.sent = l.now / l.period.nanos := by
  have early : l.now < (l.cache.sent + 1) * l.period.nanos := by
    refine Nat.lt_of_le_of_ne (h.deadline_eq ▸ h.before) fun at_end => between ?_
    exact ⟨l.cache.sent + 1, at_end.trans (Nat.mul_comm _ _)⟩
  exact (Nat.div_eq_of_lt_le h.begun early).symm

/-! ### Time goes on -/

/-- The clock gets to every instant up to the next tick. -/
theorem step_pass {target : Instant} (later : l.now ≤ target) (shown : Instant.onClock target)
    (near : target ≤ l.deadline) : l.step (.pass target) = some { l with now := target } :=
  if_pos ⟨later, shown, fun _ => Nat.le_trans near (Instant.le_roundUpMillis _)⟩

/-- The state after the tick at the end of the current period. -/
def ticked (l : Life) : Life :=
  { l with cache := l.cache.tick, now := l.deadline, deadline := l.deadline + l.period.nanos }

/-- The next tick comes as long as the clock shows the end of the period that follows it. -/
theorem OnTime.ticked (h : l.OnTime) (running : l.isRunning)
    (whole : Instant.nanosPerMilli ∣ l.period.nanos)
    (shown : Instant.onClock (l.deadline + l.period.nanos)) :
    l.ticked.OnTime ∧ runFrom Life.step l [.pass l.deadline, .tick] = some l.ticked := by
  have at_end : OnTime { l with now := l.deadline } :=
    ⟨Nat.le_trans h.begun h.before, h.deadline_eq, Nat.le_refl _⟩
  have passes := step_pass h.before
    (Instant.onClock_mono (Nat.le_add_right _ l.period.nanos) shown) (Nat.le_refl _)
  have due := Nat.le_of_eq (h.roundUpMillis_deadline whole)
  have ticks : Life.step { l with now := l.deadline } .tick = some { l with
      now := l.deadline
      cache := l.cache.tick
      deadline := nextDeadline { l with now := l.deadline } } := if_pos ⟨running, due⟩
  rw [@nextDeadline_eq { l with now := l.deadline } shown] at ticks
  exact ⟨at_end.next rfl, runFrom_step passes (runFrom_step ticks (runFrom_nil _))⟩

/-- While the informers run, the clock can get to every later instant whose period it shows the end
of, through all ticks that come before. -/
theorem OnTime.exists_run (h : l.OnTime) (running : l.isRunning)
    (whole : Instant.nanosPerMilli ∣ l.period.nanos) (positive : 0 < l.period.nanos)
    {target : Nat} (later : l.now ≤ target)
    (shown : Instant.onClock ((target / l.period.nanos + 1) * l.period.nanos)) :
    ∃ events l', (∀ event ∈ events, event.ends = false) ∧
      runFrom Life.step l events = some l' ∧ l'.now = target := by
  have target_lt : target < (target / l.period.nanos + 1) * l.period.nanos := by
    rw [Nat.succ_mul]
    exact Nat.lt_div_mul_add positive
  have target_shown : Instant.onClock target := Instant.onClock_mono (Nat.le_of_lt target_lt) shown
  -- the induction is on a bound for the ticks that come before the target
  obtain ⟨n, far⟩ : ∃ n, target ≤ l.deadline + n * l.period.nanos :=
    ⟨target, Nat.le_trans (Nat.le_mul_of_pos_right _ positive) (Nat.le_add_left _ _)⟩
  induction n generalizing l with
  | zero =>
      have near : target ≤ l.deadline := by simpa using far
      exact ⟨_, _, List.forall_mem_singleton.2 rfl,
        runFrom_step (step_pass later target_shown near) (runFrom_nil _), rfl⟩
  | succ n ih =>
      by_cases near : target ≤ l.deadline
      · exact ⟨_, _, List.forall_mem_singleton.2 rfl,
          runFrom_step (step_pass later target_shown near) (runFrom_nil _), rfl⟩
      have beyond : l.deadline ≤ target := Nat.le_of_not_le near
      have next_shown : Instant.onClock (l.deadline + l.period.nanos) := by
        refine Instant.onClock_mono ?_ shown
        rw [Nat.succ_mul]
        refine Nat.add_le_add_right ?_ _
        rw [h.deadline_eq] at beyond ⊢
        exact Nat.mul_le_mul_right _ ((Nat.le_div_iff_mul_le positive).2 beyond)
      obtain ⟨onTime, first⟩ := h.ticked running whole next_shown
      have closer : target ≤ l.ticked.deadline + n * l.period.nanos := by
        refine Nat.le_trans far (Nat.le_of_eq ?_)
        rw [Nat.succ_mul, Nat.add_comm (n * _), ← Nat.add_assoc]
        rfl
      obtain ⟨events, l', calm, run, at_target⟩ :=
        ih onTime running whole positive beyond shown target_lt closer
      refine ⟨.pass l.deadline :: .tick :: events, l', ?_, ?_, at_target⟩
      · exact List.forall_mem_cons.2 ⟨rfl, List.forall_mem_cons.2 ⟨rfl, calm⟩⟩
      · calc runFrom Life.step l ([.pass l.deadline, .tick] ++ events)
          _ = (runFrom Life.step l [.pass l.deadline, .tick]).bind
              (runFrom Life.step · events) := runFrom_append _ _ _
          _ = runFrom Life.step l.ticked events := by
              rw [first]
              rfl
          _ = some l' := run

theorem isEmpty_cellsOf (places : options.namespaces ≠ []) :
    (cellsOf scheme options).isEmpty = true ↔ scheme.kinds = [] := by
  simp only [cellsOf, List.isEmpty_iff, List.flatMap_eq_nil_iff, List.map_eq_nil_iff, places,
    imp_false]
  exact List.eq_nil_iff_forall_not_mem.symm

/-- How the informers start at the start of the clock. -/
theorem ticking_start (built : build scheme options = .ok c)
    (hs : (begin c 0).step .start = some l) :
    l.Ticking options ∧
      (l.isRunning ↔ scheme.kinds ≠ [] ∧ Instant.reaches 0 options.syncPeriod) := by
  obtain ⟨places, -, rfl⟩ := of_build built
  have no_cells : (cellsOf scheme options).isEmpty = true ↔ scheme.kinds = [] :=
    isEmpty_cellsOf places
  cases advances_of_step hs with
  | overflow idle beyond =>
      refine ⟨⟨rfl, .inr rfl, .nil, fun _ _ => rfl, nofun⟩, ?_⟩
      exact ⟨nofun, fun going => absurd going.2 beyond⟩
  | start idle reaches =>
      rw [start_eq, if_pos idle]
      by_cases kinds : scheme.kinds = []
      · have empty := no_cells.2 kinds
        simp only [begin, empty, if_true]
        refine ⟨⟨rfl, .inr rfl, .nil, fun _ _ => rfl, nofun⟩, ?_⟩
        exact ⟨nofun, fun going => absurd kinds going.1⟩
      · have cells := mt no_cells.1 kinds
        simp only [begin, cells, Bool.false_eq_true, if_false]
        refine ⟨⟨rfl, .inl rfl, .nil, fun _ _ => rfl, fun _ => .inl ⟨?_, ?_, ?_⟩⟩, ?_⟩
        · exact Nat.le_of_eq (Nat.zero_mul _)
        · exact (Nat.zero_add _).trans (Nat.one_mul _).symm
        · exact Nat.zero_le _
        · exact ⟨fun _ => ⟨kinds, reaches⟩, fun _ => rfl⟩

/-- A cache whose ticks are on time and whose clock stands between two of them has no tick to make
up for; at the end of a period it has one. -/
theorem OnTime.tickTo_eq (h : l.OnTime) (running : l.cache.phase = .running 0)
    (positive : 0 < l.period.nanos) :
    l.cache.tickTo l.now = if l.now = l.deadline then l.cache.tick else l.cache := by
  simp only [tickTo, running]
  split
  case isTrue at_end =>
    have due : ticksDue 0 l.cache.options.syncPeriod l.now - l.cache.sent = 1 := by
      change l.now / l.period.nanos - l.cache.sent = 1
      rw [at_end, h.deadline_eq, Nat.mul_div_cancel _ positive]
      exact Nat.add_sub_cancel_left _ _
    rw [due]
    rfl
  case isFalse between =>
    have early : l.now < (l.cache.sent + 1) * l.period.nanos :=
      h.deadline_eq ▸ Nat.lt_of_le_of_ne h.before between
    have due : ticksDue 0 l.cache.options.syncPeriod l.now - l.cache.sent = 0 :=
      Nat.sub_eq_zero_of_le (Nat.le_of_lt_succ ((Nat.div_lt_iff_lt_mul positive).2 early))
    rw [due]
    rfl

/-- While its informers run, a cache that started at the start of the clock has made a tick for each
whole sync period, and each namespace has counted them, as far as the clock shows the end of the
current period; and the clock can go on to every such instant. The informers of a cache with any
kinds run until an event ends them; those of a cache without kinds have ended at once. After that no
tick comes any more. -/
theorem ticks_while_running (built : build scheme options = .ok c)
    (whole : Instant.nanosPerMilli ∣ options.syncPeriod.nanos) (distinct : options.names.Nodup)
    (events : List Event) (run : runFrom Life.step (begin c 0) (.start :: events) = some l) :
    (l.isRunning ↔ scheme.kinds ≠ [] ∧ Instant.reaches 0 options.syncPeriod ∧
      ∀ event ∈ events, event.ends = false) ∧
    (l.isRunning →
      Instant.onClock ((l.now / options.syncPeriod.nanos + 1) * options.syncPeriod.nanos) →
      ¬options.syncPeriod.nanos ∣ l.now →
        l.cache.sent = l.now / options.syncPeriod.nanos ∧
        ∀ name ∈ options.names,
          l.cache.metrics.resyncs.get name = l.now / options.syncPeriod.nanos) ∧
    (l.isRunning → ∀ target : Nat, l.now ≤ target →
      Instant.onClock ((target / options.syncPeriod.nanos + 1) * options.syncPeriod.nanos) →
        ∃ later l', (∀ event ∈ later, event.ends = false) ∧
          runFrom Life.step l later = some l' ∧ l'.now = target) ∧
    (¬l.isRunning → ∀ later l', runFrom Life.step l later = some l' →
      l'.cache.sent = l.cache.sent ∧ l'.cache.metrics = l.cache.metrics) := by
  rw [runFrom_cons, Option.bind_eq_some_iff] at run
  obtain ⟨first, starts, run⟩ := run
  obtain ⟨ticking, runs⟩ := ticking_start built starts
  have positive : 0 < options.syncPeriod.nanos := Nat.pos_of_ne_zero (of_build built).2.1
  have sound := ticking.run whole positive distinct run
  have same_period : l.period = options.syncPeriod := congrArg Options.syncPeriod sound.options_eq
  have onTime : l.isRunning → ∀ target : Nat, l.now ≤ target →
      Instant.onClock ((target / l.period.nanos + 1) * l.period.nanos) → l.OnTime := by
    intro running target later shown
    refine (sound.onTime running).resolve_right fun beyond => beyond ?_
    refine Instant.onClock_mono (Nat.mul_le_mul_right _ ?_) shown
    exact Nat.succ_le_succ (Nat.div_le_div_right later)
  rw [← same_period] at whole positive ⊢
  refine ⟨?_, ?_, ?_, ?_⟩
  · rw [isRunning_run ticking.not_idle run, runs, and_assoc, same_period]
  · intro running shown between
    have sent_eq := (onTime running l.now (Nat.le_refl _) shown).sent_eq between
    exact ⟨sent_eq, fun name configured => (sound.counts name configured).trans sent_eq⟩
  · intro running target later shown
    exact (onTime running target later shown).exists_run running whole positive later shown
  · intro halted later l' goes_on
    refine counts_of_ended_run ?_ goes_on
    rcases sound.begun with running | ended
    · exact absurd (isRunning_iff.2 ⟨0, running⟩) halted
    · exact ended

/-- A cache of machines has ticked once after its first period. -/
theorem machines_tick : ∃ c l,
    build .machineApi (.single "machines" (.ofSeconds 600)) = .ok c ∧
      runFrom Life.step (begin c 0)
        [.start, .pass 600000000000, .tick, .pass 601000000000] = some l ∧
      l.cache.sent = 1 ∧ l.cache.metrics.resyncs.get "machines" = 1 := by
  refine ⟨_, _, rfl, rfl, ?_⟩
  obtain ⟨-, counts, -, -⟩ := @ticks_while_running .machineApi
    (.single "machines" (.ofSeconds 600)) _ _ rfl (by decide) (by decide)
    [.pass 600000000000, .tick, .pass 601000000000] rfl
  obtain ⟨sent, resyncs⟩ := counts rfl (by decide) (by decide)
  exact ⟨sent, resyncs "machines" (by decide)⟩

/-- A cache without kinds makes no tick, although nothing has stopped it. -/
theorem kindless_never_ticks : ∃ c l,
    build {} (.single "machines" (.ofSeconds 600)) = .ok c ∧
      runFrom Life.step (begin c 0) [.start, .pass 601000000000] = some l ∧
      ¬(Duration.ofSeconds 600).nanos ∣ l.now ∧
      l.cache.sent ≠ l.now / (Duration.ofSeconds 600).nanos ∧
      l.cache.metrics.resyncs.get "machines" ≠ l.now / (Duration.ofSeconds 600).nanos :=
  ⟨_, _, rfl, rfl, by decide, by decide, by decide⟩

end Cache.Life

end GatedManager
