import GatedManager.Proofs.Cache.Progress
import GatedManager.Proofs.Manager.Leading
import GatedManager.Proofs.Manager.Tasks
import GatedManager.Proofs.Runs

/-!
# The course of a run

A run goes through its stages in one direction. In one of them it starts its runnables: there are
none before it, and after it there are all of them or none, when the run has ended without it.
While the informers of the cache have not ended, their task goes on in the background.
-/

namespace GatedManager.Manager

open Election (Campaign)

/-- How far a run in this stage has come. -/
def Stage.rank : Stage → Nat
  | binding _ => 0
  | campaigning _ => 1
  | syncing _ => 2
  | starting => 3
  | holding _ => 4
  | stopping _ _ => 5
  | closing _ _ => 6
  | returned _ => 7
  | crashed _ => 8

/-- The campaign of a stage that has one. -/
def Stage.campaign? : Stage → Option Campaign
  | campaigning c => some c
  | holding c => c
  | _ => none

/-- The stage with its campaign, if it has one, in a new state. -/
def Stage.withCampaign (stage : Stage) (c : Campaign) : Stage :=
  match stage with
  | campaigning _ => campaigning c
  | holding (some _) => holding (some c)
  | stage => stage

/-- The stage whose campaign, if it has one, was cancelled. -/
def Stage.signal : Stage → Stage
  | campaigning c => campaigning c.signal
  | holding (some c) => holding (some c.signal)
  | stage => stage

/-- A stage without a campaign is the outcome of a change only when nothing was changed. -/
theorem Stage.withCampaign_eq_iff {stage stage' : Stage} {c : Campaign}
    (other : stage'.campaign? = none) : stage.withCampaign c = stage' ↔ stage = stage' := by
  unfold withCampaign
  split
  case h_3 => rfl
  all_goals
    constructor
    · rintro rfl
      cases other
    · rintro rfl
      cases other

theorem Stage.signal_eq_iff {stage stage' : Stage} (other : stage'.campaign? = none) :
    stage.signal = stage' ↔ stage = stage' := by
  unfold signal
  split
  case h_3 => rfl
  all_goals
    constructor
    · rintro rfl
      cases other
    · rintro rfl
      cases other

section

variable {stage : Stage} {c : Campaign} {n : Nat} {result : Result} {since : Instant}

@[simp] theorem Stage.withCampaign_eq_syncing_iff :
    stage.withCampaign c = .syncing n ↔ stage = .syncing n := withCampaign_eq_iff rfl

@[simp] theorem Stage.withCampaign_eq_starting_iff :
    stage.withCampaign c = .starting ↔ stage = .starting := withCampaign_eq_iff rfl

@[simp] theorem Stage.withCampaign_eq_stopping_iff :
    stage.withCampaign c = .stopping result since ↔ stage = .stopping result since :=
  withCampaign_eq_iff rfl

@[simp] theorem Stage.signal_eq_syncing_iff : stage.signal = .syncing n ↔ stage = .syncing n :=
  signal_eq_iff rfl

@[simp] theorem Stage.signal_eq_starting_iff : stage.signal = .starting ↔ stage = .starting :=
  signal_eq_iff rfl

@[simp] theorem Stage.signal_eq_stopping_iff :
    stage.signal = .stopping result since ↔ stage = .stopping result since := signal_eq_iff rfl

end

@[simp] theorem Stage.rank_withCampaign (stage : Stage) (c : Campaign) :
    (stage.withCampaign c).rank = stage.rank := by
  unfold withCampaign
  split <;> rfl

@[simp] theorem Stage.rank_signal (stage : Stage) : stage.signal.rank = stage.rank := by
  unfold signal
  split <;> rfl

namespace Run

variable {r r' : Run} {action : Action}

/-! ### What the changes of a run touch -/

@[simp] theorem withCampaign_eq (r : Run) (c : Campaign) :
    r.withCampaign c = { r with stage := r.stage.withCampaign c } := by
  unfold withCampaign Stage.withCampaign
  split <;> simp [*]

@[simp] theorem halt_eq (r : Run) :
    r.halt = { r with stopped := true, stage := r.stage.signal } := by
  unfold halt campaign? Stage.signal
  cases hs : r.stage with
  | campaigning c => simp [withCampaign]
  | holding c? => cases c? <;> simp [withCampaign]
  | _ => simp

@[simp] theorem fire_eq (r : Run) :
    r.fire = { r with stopped := true, shutdown := true, stage := r.stage.signal } := by
  rw [fire, halt_eq]

/-- The metrics with the gauge of the lease set, if there is one. -/
def leaderMetrics (r : Run) (leading : Bool) : Metrics :=
  match r.manager.plan.election with
  | none => r.cache.metrics
  | some config => r.cache.metrics.setLeader config.leaseKey leading

@[simp] theorem setLeader_eq (r : Run) (leading : Bool) :
    r.setLeader leading =
      { r with cache := { r.cache with metrics := r.leaderMetrics leading } } := by
  unfold setLeader leaderMetrics
  cases r.manager.plan.election <;> rfl

/-- The manager of a run never changes. -/
theorem manager_of_step (h : r.step action = some r') : r'.manager = r.manager := by
  by_cases passes : ∃ now, action = .pass now
  · obtain ⟨now, rfl⟩ := passes
    cases proceeds_of_step h
    rfl
  · exact (keeps_of_step h fun now is => passes ⟨now, is⟩).manager

/-! ### The order of the stages -/

theorem result?_eq_some_iff {result : Result} :
    r.result? = some result ↔ r.stage = .returned result := by
  unfold result?
  cases r.stage <;> simp

/-- Whether the run may still have to start its runnables. -/
def precedesStart (r : Run) : Prop := r.stage.rank < Stage.starting.rank

theorem rank_of_campaign? {c : Campaign} (ongoing : r.campaign? = some c) :
    0 < r.stage.rank ∧ r.stage.rank < 5 := by
  unfold campaign? at ongoing
  split at ongoing
  case h_1 stage => simp [stage, Stage.rank]
  case h_2 stage => simp [stage, Stage.rank]
  case h_3 => cases ongoing

theorem rank_of_notices (h : r.notices) : 0 < r.stage.rank ∧ r.stage.rank < 6 := by
  cases hs : r.stage with
  | campaigning | syncing | holding | stopping => simp [Stage.rank]
  | _ => simp [notices, hs] at h

/-- A run never goes back to an earlier stage. -/
theorem rank_le_of_step (h : r.step action = some r') : r.stage.rank ≤ r'.stage.rank := by
  cases proceeds_of_step h with
  | bound binding | unbound binding | unopposed binding | campaigned binding =>
      simp [binding, Stage.rank]
  | crashed ongoing =>
      exact Nat.le_trans (Nat.le_of_lt (rank_of_campaign? ongoing).2) (by simp [Stage.rank])
  | answered | woken | stoppedCampaign | shutdown | halted => simp
  | acquired campaigning | abandoned campaigning => simp [campaigning, close, Stage.rank]
  | lost holding | released holding | stoppedHolding _ holding | runnableFailed holding =>
      simp [holding, leave, Stage.rank]
  | synced syncing | found syncing | unsynced syncing | stoppedSyncing _ syncing =>
      simp [syncing, close, Stage.rank]
  | held starting => simp [starting, Stage.rank]
  | serviceFailed notices => exact Nat.le_of_lt (rank_of_notices notices).2
  | runnablesDone stopping | runnablesCut stopping => simp [stopping, close, Stage.rank]
  | backgroundDone closing | backgroundCut closing => simp [closing, Stage.rank]
  | _ => exact Nat.le_refl _

/-! ### The runnables -/

/-- The runnable that is started next, when the time for it has come. -/
def next? (r : Run) : Option String :=
  match r.stage with
  | .starting => r.manager.runnables[r.running.spawned]?
  | _ => none

theorem next?_eq_some_iff {name : String} :
    r.next? = some name ↔
      r.stage = .starting ∧ r.manager.runnables[r.running.spawned]? = some name := by
  unfold next?
  split
  case h_1 stage => simp [stage]
  case h_2 other => exact ⟨nofun, fun ⟨stage, _⟩ => absurd stage other⟩

/-- Which runnables have been started: none before their stage, some of the registered ones in
it, and all or none after it. -/
structure Orderly (r : Run) : Prop where
  unstarted : r.precedesStart → r.running = {}
  within : r.running.spawned ≤ r.manager.runnables.length
  whole : r.stage ≠ .starting →
    r.running.spawned = 0 ∨ r.running.spawned = r.manager.runnables.length

theorem orderly_begin (m : Manager) (now : Instant) : (begin m now).Orderly :=
  ⟨fun _ => rfl, Nat.zero_le _, fun _ => .inl rfl⟩

/-- No runnable was started by a step that began in another stage. -/
theorem spawned_of_step (h : r.step action = some r') :
    r'.running.spawned = r.running.spawned ∨ action = .start ∧ r.stage = .starting ∧
      ∃ name, r.manager.runnables[r.running.spawned]? = some name ∧
        r'.running = r.running.spawn name := by
  cases proceeds_of_step h with
  | @started name starting next => exact .inr ⟨rfl, starting, name, next, rfl⟩
  | answered | woken | stoppedCampaign | shutdown | halted | campaigned | acquired =>
      exact .inl (by simp)
  | lost => exact .inl (by simp [leave])
  | runnableEnded => exact .inl TaskGroup.spawned_finish
  | runnableClean holding looks | runnableFailed holding looks =>
      exact .inl (TaskGroup.spawned_look looks)
  | _ => exact .inl rfl

/-- The stage of the runnables is left after the last one. -/
theorem none_left_of_step (h : r.step action = some r') (starting : r.stage = .starting)
    (left : r'.stage ≠ .starting) : r.manager.runnables[r.running.spawned]? = none := by
  cases proceeds_of_step h with
  | held _ all => exact all
  | answered ongoing | woken ongoing | stoppedCampaign _ ongoing | crashed ongoing =>
      simp [campaign?, starting] at ongoing
  | shutdown | halted => simp [starting] at left
  | serviceFailed notices => simp [Run.notices, starting] at notices
  | passed | informed | ticked | started | serviceEnded | runnableEnded | serviceClean
  | runnableClean => exact absurd starting left
  | bound stage | unbound stage | unopposed stage | campaigned stage | acquired stage
  | abandoned stage | lost stage | released stage | synced stage | found stage | unsynced stage
  | stoppedSyncing _ stage | stoppedHolding _ stage | runnableFailed stage | runnablesDone stage
  | runnablesCut stage | backgroundDone stage | backgroundCut stage =>
      cases stage.symm.trans starting

theorem running_of_step (h : r.step action = some r') (idle : r.running = {})
    (early : r'.precedesStart) : r'.running = {} := by
  cases proceeds_of_step h with
  | answered | woken | stoppedCampaign | shutdown | halted | campaigned | acquired =>
      simpa using idle
  | lost | serviceFailed | runnableFailed | runnablesCut =>
      simp [precedesStart, leave, close, Stage.rank] at early
  | started starting => simp [precedesStart, starting] at early
  | runnableEnded live => simp [idle] at live
  | runnableClean holding => simp [precedesStart, holding, Stage.rank] at early
  | _ => exact idle

theorem Orderly.step (h : r.Orderly) (hs : r.step action = some r') : r'.Orderly := by
  have manager := manager_of_step hs
  refine ⟨fun early => running_of_step hs (h.unstarted ?_) early, ?_, ?_⟩
  · exact Nat.lt_of_le_of_lt (rank_le_of_step hs) early
  · rw [manager]
    rcases spawned_of_step hs with same | ⟨-, -, name, next, spawns⟩
    · exact same ▸ h.within
    · exact spawns ▸ (List.getElem?_eq_some_iff.1 next).1
  · intro left
    rw [manager]
    rcases spawned_of_step hs with same | ⟨rfl, starting, name, next, spawns⟩
    · rw [same]
      by_cases starting : r.stage = .starting
      · have all := List.getElem?_eq_none_iff.1 (none_left_of_step hs starting left)
        exact .inr (Nat.le_antisymm h.within all)
      · exact h.whole starting
    · have none_left := none_left_of_step hs starting left
      exact nomatch next.symm.trans none_left

theorem Orderly.run {actions : List Action} (h : r.Orderly)
    (run : runFrom Run.step r actions = some r') : r'.Orderly :=
  runFrom_invariant (fun _ _ _ h hs => h.step hs) h run

/-! ### The task of the cache -/

/-- From the first campaign until the run returns the task of the cache goes on in the background,
unless the informers have ended. -/
structure Attended (r : Run) : Prop where
  sound : r.background.Sound
  attended : 0 < r.stage.rank → r.stage.rank < 7 →
    r.cache.phase = .ended ∨ r.background.Runs cacheTask

theorem attended_begin (m : Manager) (now : Instant) : (begin m now).Attended :=
  ⟨TaskGroup.sound_empty, nofun⟩

/-- A step that begins after the listeners are bound and that touches neither the background nor
the life of the cache. -/
theorem Attended.keep (h : r.Attended) (later : r.stage.rank ≤ r'.stage.rank)
    (begun : 0 < r'.stage.rank → 0 < r.stage.rank) (background : r'.background = r.background)
    (phase : r'.cache.phase = r.cache.phase) : r'.Attended := by
  refine ⟨background ▸ h.sound, fun above below => ?_⟩
  rw [background, phase]
  exact h.attended (begun above) (Nat.lt_of_le_of_lt later below)

theorem Attended.serviceEnded {task : Nat} {name : String} {ending : Ending} (h : r.Attended)
    (live : task ∈ r.background.live) (named : r.background.name? task = some name) :
    Attended { r with
      background := r.background.finish task ending
      cache := if name = cacheTask then r.cache.stop else r.cache } := by
  refine ⟨h.sound.finish live ending, fun above below => ?_⟩
  by_cases is_cache : name = cacheTask
  · simp only [is_cache, if_true]
    exact .inl rfl
  · simp only [is_cache, if_false]
    exact (h.attended above below).imp_right fun runs => runs.finish named is_cache

theorem Attended.look {failure? : Option ManagerError} {background : TaskGroup} (h : r.Attended)
    (looks : r.background.look? = some (failure?, background)) :
    Attended { r with background := background } :=
  ⟨h.sound.look looks, fun above below =>
    (h.attended above below).imp_right fun runs => runs.look h.sound looks⟩

theorem Attended.step (h : r.Attended) (hs : r.step action = some r') : r'.Attended := by
  have later := rank_le_of_step hs
  cases proceeds_of_step hs with
  | bound => exact ⟨h.sound.spawn _, nofun⟩
  | unbound binding | backgroundCut =>
      exact ⟨h.sound.abort, fun _ below => absurd below (by simp [Stage.rank])⟩
  | unopposed =>
      exact ⟨h.sound.spawn _, fun _ _ => .inr (h.sound.runs_spawn cacheTask)⟩
  | campaigned =>
      rw [setLeader_eq]
      exact ⟨h.sound.spawn _, fun _ _ => .inr (h.sound.runs_spawn cacheTask)⟩
  | answered | woken | stoppedCampaign | shutdown | halted =>
      exact h.keep later (by simp) (by simp) (by simp)
  | acquired campaigning =>
      exact h.keep later (by simp [campaigning, Stage.rank]) (by simp) (by simp)
  | lost holding =>
      exact h.keep later (by simp [holding, Stage.rank]) (by simp [leave]) (by simp [leave])
  | serviceEnded live named => exact h.serviceEnded live named
  | serviceClean _ looks => exact h.look looks
  | serviceFailed notices looks =>
      have looked := h.look looks
      exact ⟨looked.sound, fun _ _ => looked.attended (rank_of_notices notices).1
        (Nat.lt_trans (rank_of_notices notices).2 (by decide))⟩
  | crashed => exact ⟨h.sound, fun _ below => absurd below (by simp [Stage.rank])⟩
  | informed => exact h.keep later id rfl Cache.phase_take
  | ticked => exact h.keep later id rfl Cache.phase_tickTo
  | passed | started | runnableEnded | runnableClean => exact h.keep later id rfl rfl
  | _ => exact h.keep later (by simp [Stage.rank, *]) rfl rfl

theorem Attended.run {actions : List Action} (h : r.Attended)
    (run : runFrom Run.step r actions = some r') : r'.Attended :=
  runFrom_invariant (fun _ _ _ h hs => h.step hs) h run

/-! ### Time and the stop -/

theorem now_le_of_step (h : r.step action = some r') : r.now ≤ r'.now := by
  cases proceeds_of_step h with
  | passed later => exact later
  | lost | campaigned | acquired | answered | woken | stoppedCampaign | shutdown | halted =>
      simp [leave]
  | _ => exact Nat.le_refl _

theorem stopped_stays (h : r.step action = some r') (stopped : r.stopped) : r'.stopped := by
  cases proceeds_of_step h with
  | shutdown | halted => simp
  | answered | woken | stoppedCampaign | campaigned | acquired => simpa using stopped
  | abandoned | lost | released | unsynced | stoppedSyncing | stoppedHolding | serviceFailed
  | runnableFailed | runnablesDone | runnablesCut => rfl
  | _ => exact stopped

/-- A run returns when its wait for the background has taken too long. -/
theorem giveUp_of_closing {result : Result} {since : Instant}
    (closing : r.stage = .closing result since) (overdue : since + gracePeriod.nanos ≤ r.now) :
    r.step .giveUp =
      some { r with stage := .returned result, background := r.background.abort } := by
  simp only [Run.step, giveUp, closing]
  exact if_pos overdue

/-- The runnables are told to stop at the instant from which the run counts its wait for them. -/
theorem stopping_of_step {result : Result} {since : Instant} (h : r.step action = some r')
    (stopping : r'.stage = .stopping result since) :
    r.stage = .stopping result since ∨ since = r'.now ∧ r'.stopped = true := by
  cases proceeds_of_step h with
  | lost | released | stoppedHolding | runnableFailed =>
      obtain ⟨-, rfl⟩ := Stage.stopping.inj stopping
      exact .inr ⟨by simp [leave], rfl⟩
  | answered | woken | stoppedCampaign | shutdown | halted => exact .inl (by simpa using stopping)
  | passed | informed | ticked | started | serviceEnded | runnableEnded | serviceClean
  | runnableClean => exact .inl stopping
  | _ => cases stopping

end Run

/-- A manager without an election that caches the machines of one namespace and has one runnable. -/
def caching : Manager where
  plan :=
    { scheme := ⟨[.machine]⟩
      cache := { namespaces := [("default", {})], syncPeriod := .ofSeconds 600 }
      election := none
      health := none
      metrics := none }
  identity := "replica"
  runnables := ["controller"]

end GatedManager.Manager
