import GatedManager.Proofs.Manager.Course

/-!
# Whether runnables end by themselves

The runnables of a run are told to stop by a token they share, and the run waits for them before
it goes on. When each of them ends in time by itself, none is cut off by the end of that wait. A
failure in the background is different: a run that notices one while runnables go on drops them
where they are, whatever they would have done after the stop.
-/

namespace GatedManager.Manager

/-- A run, when its runnables were started and told to stop, and which of them have ended by
themselves. -/
structure Service where
  run : Run
  /-- When everything was told to stop. -/
  stoppedAt : Option Instant := none
  /-- When each runnable was started. -/
  starts : List Instant := []
  completed : List Nat := []

namespace Service

def begin (m : Manager) (now : Instant) : Service := { run := .begin m now }

/-- The runnables that have ended by themselves after an action. -/
def completedAfter (s : Service) : Action → List Nat
  | .runnableEnds task _ => task :: s.completed
  | _ => s.completed

/-- The service when an action has made a run out of the one before. -/
def after (s : Service) (action : Action) (r : Run) : Service where
  run := r
  stoppedAt := s.stoppedAt.or (if r.stopped then some r.now else none)
  starts := s.starts ++ List.replicate (r.running.spawned - s.run.running.spawned) r.now
  completed := s.completedAfter action

/-- Whether every runnable that still goes on is in time: its stop came less than the grace period
ago, or it has itself been started less than that ago. -/
def isPrompt (s : Service) : Bool :=
  s.run.running.live.all fun task =>
    match s.stoppedAt, s.starts[task]? with
    | some stop, some start => s.run.now < max stop start + gracePeriod.nanos
    | _, _ => true

/-- What follows an action when all runnables are prompt, `none` when it is not possible. -/
def step (s : Service) (action : Action) : Option Service :=
  (s.run.step action).bind fun r =>
    if (s.after action r).isPrompt then some (s.after action r) else none

/-- The look at a failure in the background while runnables go on. -/
def cutsOff (s : Service) : Action → Bool
  | .lookAtService =>
    !s.run.running.live.isEmpty && s.run.background.look?.any (·.1.isSome)
  | _ => false

/-- Whether all runnables that were started have ended by themselves when a run of the manager
returns, in its runs without the barred steps. -/
def StopsGracefully (barred : Service → Action → Bool) (m : Manager) : Prop :=
  ∀ (now : Instant) (actions : List Action) (s : Service) (result : Result),
    runFrom (barring step barred) (begin m now) actions = some s →
    s.run.result? = some result → ∀ task < s.run.running.spawned, task ∈ s.completed

variable {s s' : Service} {action : Action} {actions : List Action}

theorem step_eq_some_iff :
    s.step action = some s' ↔
      s.run.step action = some s'.run ∧ s' = s.after action s'.run ∧ s'.isPrompt := by
  unfold step
  constructor
  · intro h
    obtain ⟨r, hs, ha⟩ := Option.bind_eq_some_iff.1 h
    split at ha
    case isFalse => cases ha
    case isTrue prompt =>
      obtain rfl := Option.some.inj ha
      exact ⟨hs, rfl, prompt⟩
  · rintro ⟨hs, same, prompt⟩
    rw [hs, Option.bind_some, ← same, if_pos prompt]

/-! ### The time of the stop -/

/-- What is known of the times of a service: the stop and the starts are past, and a run that waits
for its runnables has done so since the stop and the last start. -/
structure Timed (s : Service) : Prop where
  started : s.starts.length = s.run.running.spawned
  past : ∀ start ∈ s.starts, start ≤ s.run.now
  told : s.run.stopped → s.stoppedAt.isSome
  heard : ∀ stop, s.stoppedAt = some stop → stop ≤ s.run.now
  waiting : ∀ result since, s.run.stage = .stopping result since →
    s.run.stopped ∧ (∀ stop, s.stoppedAt = some stop → stop ≤ since) ∧
      ∀ start ∈ s.starts, start ≤ since

theorem timed_begin (m : Manager) (now : Instant) : (begin m now).Timed := by
  refine ⟨rfl, ?_, nofun, nofun, nofun⟩
  simp [begin]

theorem Timed.past_after {r : Run} (h : s.Timed) (later : s.run.now ≤ r.now) :
    ∀ start ∈ (s.after action r).starts, start ≤ r.now := by
  intro start mem
  rcases List.mem_append.1 mem with before | now
  · exact Nat.le_trans (h.past start before) later
  · exact Nat.le_of_eq (List.eq_of_mem_replicate now)

theorem Timed.heard_after {r : Run} (h : s.Timed) (later : s.run.now ≤ r.now) :
    ∀ stop, (s.after action r).stoppedAt = some stop → stop ≤ r.now := by
  intro stop is_stop
  rcases Option.or_eq_some_iff.1 is_stop with before | ⟨-, now⟩
  · exact Nat.le_trans (h.heard stop before) later
  · split at now
    · exact Nat.le_of_eq (Option.some.inj now).symm
    · cases now

theorem Timed.step (h : s.Timed) (hs : s.step action = some s') : s'.Timed := by
  obtain ⟨step, same, -⟩ := step_eq_some_iff.1 hs
  have later := Run.now_le_of_step step
  have grows : s.run.running.spawned ≤ s'.run.running.spawned := by
    rcases Run.spawned_of_step step with still | ⟨-, -, name, -, spawns⟩
    · exact Nat.le_of_eq still.symm
    · exact spawns ▸ Nat.le_succ _
  refine ⟨?_, ?_, ?_, ?_, ?_⟩
  · rw [same]
    simp only [after, List.length_append, List.length_replicate, h.started]
    omega
  · rw [same]
    exact h.past_after later
  · intro stopped
    rw [same]
    simp [after, stopped]
  · rw [same]
    exact h.heard_after later
  · intro result since stopping
    rcases Run.stopping_of_step step stopping with before | ⟨rfl, stopped⟩
    · obtain ⟨stopped, heard, past⟩ := h.waiting result since before
      obtain ⟨stop, is_stop⟩ := Option.isSome_iff_exists.1 (h.told stopped)
      refine ⟨Run.stopped_stays step stopped, ?_, ?_⟩
      · rw [same]
        simpa [after, is_stop] using heard stop is_stop
      · have still : s'.run.running.spawned = s.run.running.spawned := by
          rcases Run.spawned_of_step step with still | ⟨-, starting, -⟩
          · exact still
          · exact nomatch before.symm.trans starting
        rw [same]
        simpa [after, still] using past
    · refine ⟨stopped, ?_, ?_⟩
      · rw [same]
        exact h.heard_after later
      · rw [same]
        exact h.past_after later

/-- When the wait for prompt runnables is over, none of them goes on. -/
theorem Timed.idle_of_overdue {result : Result} {since : Instant} (h : s.Timed)
    (prompt : s.isPrompt) (sound : s.run.running.Sound)
    (stopping : s.run.stage = .stopping result since)
    (overdue : since + gracePeriod.nanos ≤ s.run.now) : s.run.running.live = [] := by
  obtain ⟨stopped, heard, past⟩ := h.waiting result since stopping
  obtain ⟨stop, is_stop⟩ := Option.isSome_iff_exists.1 (h.told stopped)
  refine List.eq_nil_iff_forall_not_mem.2 fun task live => ?_
  have lt : task < s.starts.length := h.started ▸ sound.live_lt task live
  have in_time := List.all_eq_true.1 prompt task live
  simp only [is_stop, List.getElem?_eq_getElem lt, decide_eq_true_eq] at in_time
  -- the wait began after the stop and after the start, so a task that goes on would be late
  have before : max stop s.starts[task] ≤ since :=
    Nat.max_le.2 ⟨heard stop is_stop, past _ (List.getElem_mem lt)⟩
  exact absurd in_time (Nat.not_lt.2 (Nat.le_trans (Nat.add_le_add_right before _) overdue))

/-! ### What became of the runnables -/

/-- What is known of a service in every run. -/
structure Sound (s : Service) : Prop where
  orderly : s.run.Orderly
  accounts : s.run.running.Accounts s.completed
  timed : s.Timed
  prompt : s.isPrompt

theorem sound_begin (m : Manager) (now : Instant) : (begin m now).Sound :=
  ⟨Run.orderly_begin m now, TaskGroup.accounts_empty, timed_begin m now, rfl⟩

theorem accounts_after {r' : Run} (h : s.run.running.Accounts s.completed)
    (step : s.run.step action = some r') : r'.running.Accounts (s.completedAfter action) := by
  cases Run.proceeds_of_step step with
  | started => exact h.spawn _
  | runnableEnded live => exact h.finish live _
  | runnableClean _ looks | runnableFailed _ looks => exact h.look looks
  | serviceFailed | runnablesCut => exact h.abort
  | answered | woken | stoppedCampaign | shutdown | halted | campaigned | acquired =>
      simpa [completedAfter] using h
  | lost => simpa [completedAfter, Run.leave] using h
  | _ => exact h

theorem Sound.step (h : s.Sound) (hs : s.step action = some s') : s'.Sound := by
  obtain ⟨step, same, prompt⟩ := step_eq_some_iff.1 hs
  have completed : s'.completed = s.completedAfter action := by rw [same]; rfl
  exact ⟨h.orderly.step step, completed ▸ accounts_after h.accounts step, h.timed.step hs, prompt⟩

theorem Sound.run (h : s.Sound) (run : runFrom Service.step s actions = some s') : s'.Sound :=
  runFrom_invariant (fun _ _ _ h hs => h.step hs) h run

/-! ### Runs that cut nothing off -/

/-- No runnable was cut off, and a run that has stopped waiting for its runnables has none left. -/
structure Whole (r : Run) : Prop where
  uncut : r.running.aborted = []
  idle : 6 ≤ r.stage.rank → r.stage.rank ≤ 7 → r.running.live = []

/-- A run that has not stopped waiting for its runnables is whole when it has cut none off. -/
theorem whole_of_rank {r : Run} (uncut : r.running.aborted = []) (going : r.stage.rank < 6) :
    Whole r := ⟨uncut, fun stopped => absurd going (Nat.not_lt.2 stopped)⟩

theorem whole_begin (m : Manager) (now : Instant) : Whole (.begin m now) :=
  whole_of_rank rfl (by simp [Run.begin, Stage.rank])

/-- A run that begins to close without a runnable left. -/
theorem whole_close {r : Run} (uncut : r.running.aborted = []) (idle : r.running.live = [])
    (result : Result) : Whole (r.close result) := ⟨uncut, fun _ _ => idle⟩

theorem whole_of_early {r : Run} (orderly : r.Orderly) (early : r.precedesStart)
    (result : Result) : Whole (r.close result) := by
  have idle := orderly.unstarted early
  exact whole_close (by simp [idle]) (by simp [idle]) result

theorem Whole.step {r' : Run} (h : Whole s.run) (sound : s.Sound)
    (spared : s.cutsOff action = false) (step : s.run.step action = some r') : Whole r' := by
  have uncut := h.uncut
  cases Run.proceeds_of_step step with
  | abandoned stage | unsynced stage | stoppedSyncing _ stage =>
      exact whole_of_early sound.orderly (by simp [Run.precedesStart, stage, Stage.rank]) _
  | unbound stage =>
      have idle := sound.orderly.unstarted (by simp [Run.precedesStart, stage, Stage.rank])
      exact ⟨uncut, fun _ _ => by simp [idle]⟩
  | runnablesDone stage done => exact whole_close uncut (List.isEmpty_iff.1 done) _
  | runnablesCut stage overdue =>
      have idle := sound.timed.idle_of_overdue sound.prompt sound.accounts.sound stage overdue
      exact whole_close (by simp [TaskGroup.abort, uncut, idle]) rfl _
  | serviceFailed _ looks =>
      have idle : s.run.running.live = [] := by simpa [cutsOff, looks] using spared
      exact whole_close (by simp [TaskGroup.abort, uncut, idle]) rfl _
  | runnableEnded live =>
      refine ⟨by simpa using uncut, fun above below => ?_⟩
      rw [h.idle above below] at live
      cases live
  | runnableClean stage looks =>
      exact whole_of_rank ((TaskGroup.aborted_look looks).trans uncut) (by simp [stage, Stage.rank])
  | runnableFailed _ looks =>
      exact whole_of_rank ((TaskGroup.aborted_look looks).trans uncut)
        (by simp [Run.leave, Stage.rank])
  | started stage => exact whole_of_rank uncut (by simp [stage, Stage.rank])
  | backgroundDone stage | backgroundCut stage =>
      exact ⟨uncut, fun _ _ => h.idle (by simp [stage, Stage.rank]) (by simp [stage, Stage.rank])⟩
  | answered | woken | stoppedCampaign | shutdown | halted =>
      exact ⟨by simpa using uncut, by simpa using h.idle⟩
  | campaigned | acquired => exact whole_of_rank (by simpa using uncut) (by simp [Stage.rank])
  | lost => exact whole_of_rank (by simpa [Run.leave] using uncut) (by simp [Run.leave, Stage.rank])
  | crashed => exact ⟨uncut, fun _ below => absurd below (by simp [Stage.rank])⟩
  | passed | informed | ticked | serviceEnded | serviceClean => exact ⟨uncut, h.idle⟩
  | _ => exact whole_of_rank uncut (by simp [Run.leave, Stage.rank])

theorem sound_and_whole (m : Manager) (now : Instant)
    (run : runFrom (barring Service.step cutsOff) (begin m now) actions = some s) :
    s.Sound ∧ Whole s.run := by
  refine runFrom_invariant (P := fun s => s.Sound ∧ Whole s.run) ?_
    ⟨sound_begin m now, whole_begin m now⟩ run
  rintro s action s' ⟨sound, whole⟩ hs
  obtain ⟨spared, hs⟩ := barring_eq_some_iff.1 hs
  exact ⟨sound.step hs, whole.step sound spared (step_eq_some_iff.1 hs).1⟩

/-! ### Runs that cut runnables off -/

/-- A runnable that was cut off stays so. -/
theorem aborted_of_step {r r' : Run} {task : Nat} (h : r.step action = some r')
    (cut : task ∈ r.running.aborted) : task ∈ r'.running.aborted := by
  cases Run.proceeds_of_step h with
  | serviceFailed | runnablesCut => exact List.mem_append_left _ cut
  | runnableEnded => simpa using cut
  | runnableClean _ looks => exact (TaskGroup.aborted_look looks).symm ▸ cut
  | runnableFailed _ looks => exact (TaskGroup.aborted_look looks).symm ▸ cut
  | answered | woken | stoppedCampaign | shutdown | halted | campaigned | acquired =>
      simpa using cut
  | lost => simpa [Run.leave] using cut
  | _ => exact cut

theorem aborted_of_run {task : Nat} (run : runFrom Service.step s actions = some s')
    (cut : task ∈ s.run.running.aborted) : task ∈ s'.run.running.aborted :=
  runFrom_invariant (P := fun s => task ∈ s.run.running.aborted)
    (fun _ _ _ cut hs => aborted_of_step (step_eq_some_iff.1 hs).1 cut) cut run

/-- A run without runnables that waits for its background returns at the end of that wait. -/
theorem returns_of_closing {result : Result} {since : Instant}
    (stage : s.run.stage = .closing result since) (idle : s.run.running.live = []) :
    ∃ actions s', runFrom Service.step s actions = some s' ∧ s'.run.result? = some result := by
  let late : Run := { s.run with now := max s.run.now (since + gracePeriod.nanos) }
  let ended : Run :=
    { late with stage := .returned result, background := late.background.abort }
  have passes : s.step (.pass late.now) = some (s.after (.pass late.now) late) := by
    refine step_eq_some_iff.2 ⟨if_pos (Nat.le_max_left ..), rfl, ?_⟩
    simp [isPrompt, after, late, idle]
  have returns : (s.after (.pass late.now) late).step .giveUp =
      some ((s.after (.pass late.now) late).after .giveUp ended) := by
    refine step_eq_some_iff.2 ⟨?_, rfl, ?_⟩
    · exact Run.giveUp_of_closing stage (Nat.le_max_right ..)
    · simp [isPrompt, after, late, ended, idle]
  exact ⟨_, _, runFrom_step passes (runFrom_step returns (runFrom_nil _)), rfl⟩

/-- The look at a failure in the background drops the runnables. -/
theorem drops_of_look {r r' : Run} (fails : r.background.look?.any (·.1.isSome))
    (hs : r.step .lookAtService = some r') :
    ∃ error, r'.stage = .closing (.error error) r.now ∧ r'.running = r.running.abort := by
  cases Run.proceeds_of_step hs with
  | serviceClean _ looks => simp [looks] at fails
  | @serviceFailed error _ _ looks => exact ⟨error, rfl, rfl⟩

/-- The look at a failure in the background cuts a runnable off that will never be completed, and
the run can return. -/
theorem cut_off (sound : s.Sound) (cuts : s.cutsOff .lookAtService)
    (hs : s.step .lookAtService = some s') :
    ∃ task < s'.run.running.spawned,
      (∀ actions t, runFrom Service.step s' actions = some t → task ∉ t.completed) ∧
      ∃ actions t result, runFrom Service.step s' actions = some t ∧
        t.run.result? = some result := by
  obtain ⟨live, fails⟩ : s.run.running.live ≠ [] ∧
      s.run.background.look?.any (·.1.isSome) = true := by
    simpa [cutsOff] using cuts
  obtain ⟨task, others, is_live⟩ := List.exists_cons_of_ne_nil live
  obtain ⟨error, closing, dropped⟩ := drops_of_look fails (step_eq_some_iff.1 hs).1
  have sound' := sound.step hs
  have cut : task ∈ s'.run.running.aborted := by simp [dropped, TaskGroup.abort, is_live]
  refine ⟨task, (sound'.accounts.gone task (.inr cut)).1, ?_, ?_⟩
  · intro actions t run completed
    exact (sound'.run run).accounts.whole task completed (aborted_of_run run cut)
  · obtain ⟨actions, t, run, returned⟩ := returns_of_closing closing (by rw [dropped]; rfl)
    exact ⟨actions, t, _, run, returned⟩

/-! ### Whether the runnables are stopped gracefully -/

/-- When all runnables are prompt, all that were started have ended by themselves when a run
returns, unless it has noticed a failure in the background while runnables went on. A run that does
so cuts one of them off. -/
theorem stops_gracefully (m : Manager) :
    StopsGracefully cutsOff m ∧
    ∀ (now : Instant) (actions : List Action) (s s' : Service),
      runFrom step (begin m now) actions = some s → s.cutsOff .lookAtService →
      s.step .lookAtService = some s' →
      ∃ task < s'.run.running.spawned,
        (∀ later t, runFrom step s' later = some t → task ∉ t.completed) ∧
        ∃ later t result, runFrom step s' later = some t ∧ t.run.result? = some result := by
  refine ⟨?_, ?_⟩
  · intro now actions s result run returned
    obtain ⟨sound, whole⟩ := sound_and_whole m now run
    have stage := Run.result?_eq_some_iff.1 returned
    have idle := whole.idle (by simp [stage, Stage.rank]) (by simp [stage, Stage.rank])
    exact sound.accounts.all_completed idle whole.uncut
  · intro now actions s s' run cuts hs
    exact cut_off ((sound_begin m now).run run) cuts hs

/-- The task of the cache panics while the runnable runs. -/
theorem caching_cuts_off : ¬StopsGracefully (fun _ _ => false) caching := by
  intro graceful
  have completed := graceful 0
    [.lead ⟨0, 0⟩, .inform 0 .go, .inform 0 (.page ⟨[], none⟩), .look, .look, .start, .start,
      .serviceEnds 0 .panicked, .lookAtService, .pass gracePeriod.nanos, .giveUp]
    _ _ rfl rfl 0 (by decide)
  cases completed

end Service

end GatedManager.Manager
