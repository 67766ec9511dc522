import GatedManager.Proofs.Manager.Course

/-!
# Stops before the runnables start

A run that is told to stop before it has started a runnable has nothing to finish, and it returns
without an error unless it runs into trouble afterwards. The wait for the cache is trouble of the
run's own making: the stop also ends the informers, and a wait that looks at a store that will
never be ready, before it takes notice of the stop, fails.
-/

namespace GatedManager.Manager

open Election (Campaign)

/-- Whether something fails with the action: a listener, a background task or a runnable. -/
def Action.isFault : Action → Bool
  | bind (some _) => true
  | serviceEnds _ ending => ending ≠ .clean
  | runnableEnds _ completion => completion ≠ .clean
  | _ => false

/-- What the stage of a run amounts to after the signal: there is no error, and a campaign that
holds has been released. -/
def Stage.IsSettled : Stage → Prop
  | holding (some c) => c.outcome? = some .released
  | stopping result _ => result = .ok ()
  | closing result _ => result = .ok ()
  | returned result => result = .ok ()
  | _ => True

theorem Stage.IsSettled.signal {stage : Stage} (h : stage.IsSettled) : stage.signal.IsSettled := by
  cases stage with
  | holding c? => cases c? <;> exact h
  | _ => exact h

/-- The run is about to end with an error or has done so. -/
def Stage.IsSpoilt : Stage → Prop
  | stopping result _ => result ≠ .ok ()
  | closing result _ => result ≠ .ok ()
  | returned result => result ≠ .ok ()
  | _ => False

theorem Stage.IsSpoilt.le_rank {stage : Stage} (h : stage.IsSpoilt) : 5 ≤ stage.rank := by
  cases stage with
  | stopping | closing | returned => simp [Stage.rank]
  | _ => exact h.elim

theorem Stage.IsSpoilt.withCampaign {stage : Stage} (h : stage.IsSpoilt) (c : Campaign) :
    (stage.withCampaign c).IsSpoilt := by
  cases stage with
  | stopping | closing | returned => exact h
  | _ => exact h.elim

theorem Stage.IsSpoilt.signal {stage : Stage} (h : stage.IsSpoilt) : stage.signal.IsSpoilt := by
  cases stage with
  | stopping | closing | returned => exact h
  | _ => exact h.elim

namespace Run

variable {r r' : Run} {action : Action} {actions : List Action}

/-- Whether the run has not started a runnable and has not come to hold. -/
def isEarly (r : Run) : Bool :=
  match r.stage with
  | .binding _ => true
  | .campaigning _ => true
  | .syncing _ => true
  | .starting => r.running.spawned = 0
  | _ => false

/-- Whether the run waits for a store that is not ready. -/
def isUnsynced (r : Run) : Bool :=
  match r.stage with
  | .syncing ready => r.cache.kept[ready]?.any fun cell => !cell.informer.reflector.ready
  | _ => false

theorem isUnsynced_iff :
    r.isUnsynced ↔ ∃ n cell, r.stage = .syncing n ∧ r.cache.kept[n]? = some cell ∧
      cell.informer.reflector.ready = false := by
  unfold isUnsynced
  split
  case h_1 n syncing => simp [syncing, Option.any_eq_true]
  case h_2 other => exact ⟨nofun, fun ⟨n, _, syncing, _⟩ => absurd syncing (other n)⟩

/-- The steps that end a run with an error: a listener cannot be bound, the wait for the cache
finds a store that will never be ready, or the run looks at a failed task. -/
def troubles (r : Run) : Action → Bool
  | .bind (some _) => true
  | .look => r.isUnsynced
  | .lookAtService => r.background.look?.any (·.1.isSome)
  | .lookAtRunnable => r.running.look?.any (·.1.isSome)
  | _ => false

/-- Whether every run of a manager in which nothing has failed and no runnable has been started
returns without an error once the signal fires, if it takes none of the barred steps from then
on. -/
def StopsCleanly (barred : Run → Action → Bool) (m : Manager) : Prop :=
  ∀ (now : Instant) (before after : List Action) (r r' : Run) (result : Result),
    (∀ a ∈ before, a.isFault = false) → runFrom step (begin m now) before = some r →
    r.isEarly → runFrom (barring step barred) r.fire after = some r' →
    r'.result? = some result → result = .ok ()

/-! ### Runs without trouble -/

/-- What is known of a run after the signal that has had no trouble since. -/
structure Settled (r : Run) : Prop where
  stopped : r.stopped
  stage : r.stage.IsSettled

/-- A campaign that has ended changes no more. -/
theorem over_of_outcome {c : Campaign} {outcome : Election.Outcome}
    (h : c.outcome? = some outcome) (now : Instant) :
    c.attempt? = none ∧ c.isDue now = false ∧ c.isIdle = false := by
  have ended := Campaign.outcome?_eq_some_iff.1 h
  refine ⟨?_, ?_, ?_⟩
  · simp [Campaign.attempt?, ended]
  · simp [Campaign.isDue, Campaign.timer?, ended]
  · simp [Campaign.isIdle, ended]

/-- Only a campaign to acquire the lease goes on in a settled run. -/
theorem Settled.withCampaign {c : Campaign} (h : r.Settled) (ongoing : r.campaign? = some c)
    (going : c.attempt?.isSome ∨ c.isDue r.now ∨ c.isIdle) (c' : Campaign) :
    (r.withCampaign c').Settled := by
  have settled := h.stage
  refine ⟨by simpa using h.stopped, ?_⟩
  unfold campaign? at ongoing
  split at ongoing
  case h_1 hs => simp [hs, Stage.withCampaign, Stage.IsSettled]
  case h_2 hs =>
    rw [ongoing] at hs
    rw [hs] at settled
    obtain ⟨closed, undue, busy⟩ := over_of_outcome settled r.now
    simp [closed, undue, busy] at going
  case h_3 => cases ongoing

theorem Settled.halt (h : r.Settled) : r.halt.Settled :=
  ⟨by simp, by simpa using h.stage.signal⟩

theorem settled_fire (early : r.isEarly) : r.fire.Settled := by
  have settled : r.stage.IsSettled := by
    cases hs : r.stage with
    | binding | campaigning | syncing | starting => trivial
    | _ => simp [isEarly, hs] at early
  exact ⟨by simp, by simpa using settled.signal⟩

theorem Settled.step (h : r.Settled) (hs : barring Run.step troubles r action = some r') :
    r'.Settled := by
  obtain ⟨calm, hs⟩ := barring_eq_some_iff.1 hs
  have settled := h.stage
  cases proceeds_of_step hs with
  | unbound => cases calm
  | unsynced syncing is_cell unready =>
      simp [troubles, isUnsynced, syncing, is_cell, unready] at calm
  | serviceFailed _ looks | runnableFailed _ looks => simp [troubles, looks] at calm
  | answered ongoing waits => exact h.withCampaign ongoing (.inl waits) _
  | woken ongoing due => exact h.withCampaign ongoing (.inr (.inl due)) _
  | stoppedCampaign _ ongoing idle => exact h.withCampaign ongoing (.inr (.inr idle)) _
  | shutdown => exact ⟨by simp, by simpa using settled.signal⟩
  | halted => exact h.halt
  | lost holding outcome =>
      rw [holding] at settled
      exact nomatch outcome.symm.trans settled
  | held =>
      -- a campaign that begins to hold after the stop is released at once
      refine ⟨h.stopped, ?_⟩
      cases r.elector with
      | none => trivial
      | some elector =>
          simp [Stage.IsSettled, h.stopped, Campaign.hold, Campaign.outcome?]
  | runnablesDone stopping | runnablesCut stopping =>
      rw [stopping] at settled
      exact ⟨rfl, settled⟩
  | backgroundDone closing | backgroundCut closing =>
      rw [closing] at settled
      exact ⟨h.stopped, settled⟩
  | campaigned | acquired => exact ⟨by simpa using h.stopped, trivial⟩
  | abandoned | released | stoppedSyncing | stoppedHolding => exact ⟨rfl, rfl⟩
  | bound | unopposed | synced | found | crashed => exact ⟨h.stopped, trivial⟩
  | _ => exact ⟨h.stopped, settled⟩

theorem Settled.run (h : r.Settled)
    (run : runFrom (barring Run.step troubles) r actions = some r') : r'.Settled :=
  runFrom_invariant (fun _ _ _ h hs => h.step hs) h run

/-! ### Runs with trouble -/

theorem spoilt_of_troubles (troubled : r.troubles action) (hs : r.step action = some r') :
    r'.stage.IsSpoilt := by
  cases proceeds_of_step hs with
  | unbound | unsynced | serviceFailed | runnableFailed => exact nofun
  | bound | passed => cases troubled
  | synced syncing all => simp [troubles, isUnsynced, syncing, all] at troubled
  | found syncing is_cell is_ready =>
      simp [troubles, isUnsynced, syncing, is_cell, is_ready] at troubled
  | serviceClean _ looks | runnableClean _ looks => simp [troubles, looks] at troubled
  | _ => cases troubled

/-- No later step makes up for an error. -/
theorem spoilt_of_step (spoilt : r.stage.IsSpoilt) (hs : r.step action = some r') :
    r'.stage.IsSpoilt := by
  cases proceeds_of_step hs with
  | serviceFailed => exact nofun
  | answered | woken | stoppedCampaign => simpa using spoilt.withCampaign _
  | shutdown | halted => simpa using spoilt.signal
  | runnablesDone stage | runnablesCut stage | backgroundDone stage | backgroundCut stage =>
      rw [stage] at spoilt
      exact spoilt
  | bound stage | unbound stage | unopposed stage | campaigned stage | acquired stage
  | abandoned stage | lost stage | released stage | synced stage | found stage | unsynced stage
  | held stage | stoppedSyncing _ stage | stoppedHolding _ stage | runnableFailed stage =>
      rw [stage] at spoilt
      exact spoilt.elim
  | crashed ongoing => exact absurd (rank_of_campaign? ongoing).2 (Nat.not_lt.2 spoilt.le_rank)
  | _ => exact spoilt

theorem spoilt_of_run (spoilt : r.stage.IsSpoilt) (run : runFrom step r actions = some r') :
    r'.stage.IsSpoilt :=
  runFrom_invariant (P := fun s => s.stage.IsSpoilt) (fun _ _ _ h hs => spoilt_of_step h hs)
    spoilt run

/-- A run has no trouble, or it has come to an error. -/
theorem calm_or_spoilt (run : runFrom step r actions = some r') :
    runFrom (barring step troubles) r actions = some r' ∨ r'.stage.IsSpoilt := by
  induction actions generalizing r with
  | nil => exact .inl run
  | cons action actions ih =>
      rw [runFrom_cons, Option.bind_eq_some_iff] at run
      obtain ⟨s, hs, run⟩ := run
      cases troubled : r.troubles action with
      | true => exact .inr (spoilt_of_run (spoilt_of_troubles troubled hs) run)
      | false =>
          exact (ih run).imp_left fun calm =>
            runFrom_step (barring_eq_some_iff.2 ⟨troubled, hs⟩) calm

/-! ### The wait for the cache after the signal -/

/-- A wait that looks at a store that will never be ready ends the run with an error. -/
theorem waits_in_vain (unsynced : r.isUnsynced) (ended : r.cache.phase = .ended) :
    ∃ r', runFrom step r [.look, .pass (r.now + gracePeriod.nanos), .giveUp] = some r' ∧
      r'.result? = some (.error (.cacheSync Cache.neverSynced)) := by
  obtain ⟨n, cell, syncing, is_cell, unready⟩ := isUnsynced_iff.1 unsynced
  let failed : Run := r.close (.error (.cacheSync Cache.neverSynced))
  let late : Run := { failed with now := r.now + gracePeriod.nanos }
  have looks : r.step .look = some failed := by
    simp [Run.step, look, syncing, is_cell, unready, ended, failed]
  have passes : failed.step (.pass late.now) = some late := if_pos (Nat.le_add_right ..)
  have returns : late.step .giveUp = some { late with
      stage := .returned (.error (.cacheSync Cache.neverSynced))
      background := late.background.abort } := giveUp_of_closing rfl (Nat.le_refl _)
  exact ⟨_, runFrom_step looks (runFrom_step passes (runFrom_step returns (runFrom_nil _))), rfl⟩

/-- The informers of a run that waits for the cache can end once the run was told to stop. -/
theorem informers_end (attended : r.Attended) (stopped : r.stopped) (unsynced : r.isUnsynced) :
    ∃ actions r', (∀ a ∈ actions, a.isFault = false) ∧ runFrom step r actions = some r' ∧
      r'.isUnsynced ∧ r'.cache.phase = .ended := by
  have stage : 0 < r.stage.rank ∧ r.stage.rank < 7 := by
    obtain ⟨n, cell, syncing, -⟩ := isUnsynced_iff.1 unsynced
    simp [syncing, Stage.rank]
  rcases attended.attended stage.1 stage.2 with ended | ⟨task, live, named⟩
  · exact ⟨[], r, by simp, rfl, unsynced, ended⟩
  · let halted : Run :=
      { r with background := r.background.finish task .clean, cache := r.cache.stop }
    have may : r.mayEnd cacheTask .clean = true := by simp [mayEnd, stopped]
    have ends : r.step (.serviceEnds task .clean) = some halted := by
      simp only [Run.step, serviceEnds, live, not_true, named, may, if_false, if_true, halted]
    exact ⟨[.serviceEnds task .clean], halted, by simp [Action.isFault],
      runFrom_step ends (runFrom_nil _), unsynced, rfl⟩

/-- A run that waits for a store that is not ready can return an error after the signal, although
nothing fails. -/
theorem fails_unsynced (attended : r.Attended) (unsynced : r.isUnsynced) :
    ∃ actions r', (∀ a ∈ actions, a.isFault = false) ∧ runFrom step r.fire actions = some r' ∧
      r'.result? = some (.error (.cacheSync Cache.neverSynced)) := by
  have fired : r.step .shutdown = some r.fire := rfl
  have unsynced' : r.fire.isUnsynced := by
    obtain ⟨n, cell, syncing, not_ready⟩ := isUnsynced_iff.1 unsynced
    exact isUnsynced_iff.2 ⟨n, cell, by simpa using syncing, by simpa using not_ready⟩
  obtain ⟨first, waiting, faultless, run, unsynced, ended⟩ :=
    informers_end (attended.step fired) (by simp) unsynced'
  obtain ⟨r', fails, result⟩ := waits_in_vain unsynced ended
  refine ⟨first ++ [.look, .pass (waiting.now + gracePeriod.nanos), .giveUp], r', ?_, ?_, result⟩
  · refine List.forall_mem_append.2 ⟨faultless, ?_⟩
    simp [Action.isFault]
  · rw [runFrom_append, run]
    exact fails

/-! ### Whether a run stops cleanly -/

/-- A run that returns after the signal does so without an error exactly when it has had no trouble
since. -/
theorem clean_iff_calm {result : Result} (early : r.isEarly)
    (run : runFrom step r.fire actions = some r') (returned : r'.result? = some result) :
    result = .ok () ↔ runFrom (barring step troubles) r.fire actions = some r' := by
  have stage := result?_eq_some_iff.1 returned
  constructor
  · intro clean
    refine (calm_or_spoilt run).resolve_right fun spoilt => ?_
    rw [stage] at spoilt
    exact spoilt clean
  · intro calm
    have settled := ((settled_fire early).run calm).stage
    rwa [stage] at settled

/-- When nothing has failed and no runnable has been started, every run without trouble returns
without an error after the signal. A run that waits for a store that is not ready can return an
error after it, although nothing fails. -/
theorem stops_cleanly (m : Manager) :
    StopsCleanly troubles m ∧
    ∀ (now : Instant) (before : List Action) (r : Run),
      (∀ a ∈ before, a.isFault = false) → runFrom step (begin m now) before = some r →
      r.isUnsynced →
      ∃ after r', (∀ a ∈ after, a.isFault = false) ∧ runFrom step r.fire after = some r' ∧
        r'.result? = some (.error (.cacheSync Cache.neverSynced)) := by
  refine ⟨?_, ?_⟩
  · intro now before after r r' result _ _ early calm returned
    exact (clean_iff_calm early (run_of_barring calm) returned).2 calm
  · intro now before r _ run unsynced
    exact fails_unsynced ((attended_begin m now).run run) unsynced

/-- The informers end with the signal, and the wait for the machines looks at their store before it
takes notice of the stop. No task fails. -/
theorem caching_stops_with_error : ¬StopsCleanly (fun _ a => a.isFault) caching := by
  intro clean
  have fails := clean 0 [.lead ⟨0, 0⟩]
    [.serviceEnds 0 .clean, .look, .pass gracePeriod.nanos, .giveUp] _ _ _
    (by simp [Action.isFault]) rfl rfl rfl rfl
  cases fails

end Run

end GatedManager.Manager
