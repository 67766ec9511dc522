import GatedManager.Proofs.Manager.Steady

/-!
# The first failure of a runnable

Runnables end cleanly, fail or panic, each at its own time, and several may have one name. An
undisturbed run looks at those that have ended in the order in which they ended, and the first one
that has failed or panicked decides what it returns. The run then tells everything to stop and waits
for what is left, whose later failures change nothing. While all that have ended did so cleanly, it
does not return.

A run that waits only as long as there is nothing to do, and no longer than a grace period for its
runnables and another one for its background, has returned two grace periods after the failure.
-/

namespace GatedManager.Manager

open Election (Campaign)

/-- The error of a runnable called `name` that ends like this. -/
def Completion.failure? (name : String) : Completion → Option ManagerError
  | clean => none
  | failed reason => some (.runnable name reason)
  | panicked => some (.runnablePanicked name)

/-- The error of the runnable that ends with the action. It bears the name under which the runnable
was registered. -/
def Action.failure? (m : Manager) : Action → Option ManagerError
  | runnableEnds task completion => m.runnables[task]?.bind completion.failure?
  | _ => none

/-- The error of the first runnable that fails or panics. -/
def firstFailure? (m : Manager) (actions : List Action) : Option ManagerError :=
  actions.findSome? (·.failure? m)

theorem Completion.failure?_ending (completion : Completion) (name : String) :
    (completion.ending name).failure? name = completion.failure? name := by
  cases completion <;> rfl

/-- What the run waits for was not told to stop in the future. -/
def Stage.IsPast (now : Instant) : Stage → Prop
  | stopping _ since => since ≤ now
  | closing _ since => since ≤ now
  | _ => True

/-- It is not later than a run in this stage can be that does at once what it has to do, and that
had its first failure at the instant `failed` or before. -/
def Stage.IsInTime (failed now : Instant) : Stage → Prop
  | stopping _ since => since ≤ failed ∧ now ≤ failed + gracePeriod.nanos
  | closing _ since => since ≤ failed + gracePeriod.nanos ∧
      now ≤ failed + gracePeriod.nanos + gracePeriod.nanos
  | returned _ => True
  | crashed _ => True
  | _ => now ≤ failed

section

variable {stage : Stage} {now failed : Instant}

@[simp] theorem Stage.isPast_withCampaign (c : Campaign) :
    (stage.withCampaign c).IsPast now ↔ stage.IsPast now := by
  unfold withCampaign
  split <;> rfl

@[simp] theorem Stage.isPast_signal : stage.signal.IsPast now ↔ stage.IsPast now := by
  unfold signal
  split <;> rfl

@[simp] theorem Stage.isInTime_withCampaign (c : Campaign) :
    (stage.withCampaign c).IsInTime failed now ↔ stage.IsInTime failed now := by
  unfold withCampaign
  split <;> rfl

@[simp] theorem Stage.isInTime_signal :
    stage.signal.IsInTime failed now ↔ stage.IsInTime failed now := by
  unfold signal
  split <;> rfl

theorem Stage.IsPast.mono {later : Instant} (h : stage.IsPast now) (le : now ≤ later) :
    stage.IsPast later := by
  cases stage with
  | stopping | closing => exact Nat.le_trans h le
  | _ => trivial

theorem Stage.IsPast.isInTime (h : stage.IsPast now) : stage.IsInTime now now := by
  cases stage with
  | stopping => exact ⟨h, Nat.le_add_right _ _⟩
  | closing =>
      exact ⟨Nat.le_add_right_of_le h, Nat.le_add_right_of_le (Nat.le_add_right _ _)⟩
  | returned | crashed => trivial
  | _ => exact Nat.le_refl now

theorem Stage.IsInTime.early (h : stage.IsInTime failed now) (early : stage.rank < 5) :
    now ≤ failed := by
  cases stage with
  | stopping | closing | returned | crashed => simp [rank] at early
  | _ => exact h

theorem Stage.IsInTime.le_two (h : stage.IsInTime failed now) :
    (∃ result, stage = .returned result) ∨ now ≤ failed + 2 * gracePeriod.nanos ∨
      ∃ crash, stage = .crashed crash := by
  have two : failed + gracePeriod.nanos + gracePeriod.nanos = failed + 2 * gracePeriod.nanos := by
    rw [Nat.two_mul, Nat.add_assoc]
  cases stage with
  | returned result => exact .inl ⟨result, rfl⟩
  | crashed crash => exact .inr (.inr ⟨crash, rfl⟩)
  | closing => exact .inr (.inl (two ▸ h.2))
  | stopping => exact .inr (.inl (two ▸ Nat.le_add_right_of_le h.2))
  | _ => exact .inr (.inl (Nat.le_add_right_of_le h))

theorem Stage.IsInTime.waiting (h : stage.IsInTime failed now) (waiting : stage.rank < 6) :
    now ≤ failed + gracePeriod.nanos := by
  cases stage with
  | stopping => exact h.2
  | closing | returned | crashed => simp [rank] at waiting
  | _ => exact Nat.le_add_right_of_le h

end

namespace Run

variable {r r' : Run} {action : Action} {actions : List Action} {error : ManagerError}

/-! ### The failures that have not been looked at -/

theorem named_of_step (h : r.running.Named r.manager.runnables)
    (hs : r.step action = some r') : r'.running.Named r'.manager.runnables := by
  rw [manager_of_step hs]
  cases proceeds_of_step hs with
  | started _ next => exact h.spawn next
  | runnableEnded live => exact h.finish live _
  | runnableClean _ looks | runnableFailed _ looks => exact h.look looks
  | serviceFailed | runnablesCut => exact h.abort
  | answered | woken | stoppedCampaign | shutdown | halted | campaigned | acquired =>
      simpa using h
  | lost => simpa [leave] using h
  | _ => exact h

/-- A step adds the failure of the runnable that ends with it, unless it is a look. -/
theorem failures_of_step (h : r.running.Named r.manager.runnables)
    (hs : r.step action = some r') (undecided : r'.stage.verdict? = none) :
    r'.running.firstFailure? = r.running.firstFailure?.or (action.failure? r.manager) := by
  cases proceeds_of_step hs with
  | started _ next => simp [Action.failure?, h.firstFailure?_spawn]
  | @runnableEnded task name live named completion =>
      simp [Action.failure?, named, h.firstFailure?_finish live named,
        Completion.failure?_ending]
  | runnableClean _ looks => simp [Action.failure?, h.firstFailure?_look looks]
  | runnableFailed | lost | serviceFailed | runnablesCut =>
      simp [leave, close, Stage.verdict?] at undecided
  | _ => simp [Action.failure?, leave, close]

/-- What is known of an undisturbed run whose first failure is this one, if there was a failure. As
long as nothing is decided, the first of those that have not been looked at is the first one. -/
structure Reckons (first? : Option ManagerError) (r : Run) : Prop where
  named : r.running.Named r.manager.runnables
  steady : r.Steady
  pending : r.stage.verdict? = none → r.running.firstFailure? = first?
  decided : ∀ result, r.stage.verdict? = some result →
    r.stopped = true ∧ ∃ error, first? = some error ∧ result = .error error

theorem reckons_begin (m : Manager) (now : Instant) : Reckons none (begin m now) :=
  ⟨TaskGroup.named_empty _, steady_begin m now, fun _ => rfl, nofun⟩

theorem Reckons.step {first? : Option ManagerError} (h : r.Reckons first?)
    (calm : r.disturbs action = false) (hs : r.step action = some r') :
    r'.Reckons (first?.or (action.failure? r.manager)) := by
  refine ⟨named_of_step h.named hs, h.steady.step calm hs, fun undecided => ?_, ?_⟩
  · rw [failures_of_step h.named hs undecided]
    rcases h.steady.verdict_of_step calm hs with same | ⟨c?, error, running, -, -, rfl⟩
    · rw [h.pending (same.symm.trans undecided)]
    · cases undecided
  · intro result is_verdict
    rcases h.steady.verdict_of_step calm hs with same | ⟨c?, error, running, stage, looks, rfl⟩
    · obtain ⟨stopped, error, rfl, rfl⟩ := h.decided result (same.symm.trans is_verdict)
      exact ⟨stopped_stays hs stopped, error, rfl, rfl⟩
    · obtain rfl : Except.error error = result := Option.some.inj is_verdict
      have first : first? = some error := by
        rw [← h.pending (by simp [stage, Stage.verdict?]), h.named.firstFailure?_look looks]
        rfl
      exact ⟨rfl, error, by simp [first], rfl⟩

/-! ### The run returns -/

/-- Whether the run has something to do: a runnable to start, one that has ended to look at, or no
one to wait for any more. -/
def isReady (r : Run) : Bool :=
  match r.stage with
  | .starting => true
  | .holding _ => !r.running.ended.isEmpty
  | .stopping _ _ => r.running.isDone
  | .closing _ _ => r.background.isDone
  | _ => false

/-- Whether the run lets time pass although it has something to do, or waits for longer than a
grace period for what it has told to stop. -/
def dawdles (r : Run) : Action → Bool
  | .pass now => r.isReady ||
    match r.stage with
    | .stopping _ since => since + gracePeriod.nanos < now
    | .closing _ since => since + gracePeriod.nanos < now
    | _ => false
  | _ => false

/-- The steps of an undisturbed run that does at once what it has to do. -/
def attend : Run → Action → Option Run := barring step fun r action =>
  r.disturbs action || r.dawdles action

theorem attend_eq_some_iff :
    r.attend action = some r' ↔
      r.disturbs action = false ∧ r.dawdles action = false ∧ r.step action = some r' := by
  unfold attend
  rw [barring_eq_some_iff, Bool.or_eq_false_iff, and_assoc]

/-- The run can go on so that it returns the result. -/
def CanReturn (result : Result) (r : Run) : Prop :=
  ∃ more r', runFrom attend r more = some r' ∧ r'.result? = some result

variable {result : Result} {since : Instant}

theorem CanReturn.before (hs : r.attend action = some r') (h : r'.CanReturn result) :
    r.CanReturn result := by
  obtain ⟨more, t, run, returned⟩ := h
  exact ⟨action :: more, t, runFrom_step hs run, returned⟩

theorem canReturn_of_returned (stage : r.stage = .returned result) : r.CanReturn result :=
  ⟨[], r, rfl, result?_eq_some_iff.2 stage⟩

/-- A run that waits for what it has told to stop can wait until its time is up. -/
theorem canReturn_of_waiting
    (stage : r.stage = .stopping result since ∨ r.stage = .closing result since)
    (idle : r.isReady = false)
    (overdue : ∀ now, since + gracePeriod.nanos ≤ now → CanReturn result { r with now := now }) :
    r.CanReturn result := by
  by_cases late : since + gracePeriod.nanos ≤ r.now
  · exact overdue r.now late
  · have passes : r.attend (.pass (since + gracePeriod.nanos)) =
        some { r with now := since + gracePeriod.nanos } := by
      refine attend_eq_some_iff.2 ⟨rfl, ?_, if_pos (Nat.le_of_not_le late)⟩
      rcases stage with stage | stage <;> simp [dawdles, idle, stage]
    exact .before passes (overdue _ (Nat.le_refl _))

theorem canReturn_of_closing (stage : r.stage = .closing result since) : r.CanReturn result := by
  by_cases done : r.background.isDone
  · have returns : r.attend .drained = some { r with stage := .returned result } :=
      attend_eq_some_iff.2 ⟨rfl, rfl, by simp [Run.step, drained, stage, done]⟩
    exact .before returns (canReturn_of_returned rfl)
  · refine canReturn_of_waiting (.inr stage) (by simp [isReady, stage, done]) fun now late => ?_
    have returns : attend { r with now := now } .giveUp = some
        { r with now := now, stage := .returned result, background := r.background.abort } :=
      attend_eq_some_iff.2 ⟨rfl, rfl, giveUp_of_closing stage late⟩
    exact .before returns (canReturn_of_returned rfl)

theorem canReturn_of_stopping (stage : r.stage = .stopping result since) :
    r.CanReturn result := by
  by_cases done : r.running.isDone
  · have closes : r.attend .drained = some (r.close result) :=
      attend_eq_some_iff.2 ⟨rfl, rfl, by simp [Run.step, drained, stage, done]⟩
    exact .before closes (canReturn_of_closing rfl)
  · refine canReturn_of_waiting (.inl stage) (by simp [isReady, stage, done]) fun now late => ?_
    have closes : attend { r with now := now } .giveUp =
        some (close { r with now := now, running := r.running.abort } result) :=
      attend_eq_some_iff.2 ⟨rfl, rfl, by simp [Run.step, giveUp, stage, late]⟩
    exact .before closes (canReturn_of_closing rfl)

/-- A run that holds looks at those that have ended, one after the other. -/
theorem canReturn_of_holding {c? : Option Campaign} (named : r.running.Named r.manager.runnables)
    (stage : r.stage = .holding c?) (failed : r.running.firstFailure? = some error) :
    r.CanReturn (.error error) := by
  induction waiting : r.running.ended generalizing r with
  | nil => simp [TaskGroup.firstFailure?, waiting] at failed
  | cons first rest ih =>
      have some_ended : r.running.ended ≠ [] := by simp [waiting]
      obtain ⟨failure?, running, looks⟩ := TaskGroup.exists_look some_ended
      have found := (named.firstFailure?_look looks).symm.trans failed
      cases failure? with
      | none =>
          have sees : r.attend .lookAtRunnable = some { r with running := running } :=
            attend_eq_some_iff.2 ⟨rfl, rfl, by simp [Run.step, lookAtRunnable, stage, looks]⟩
          have left : running.ended = rest := by simp [TaskGroup.ended_look looks, waiting]
          exact .before sees (ih (named.look looks) stage found left)
      | some e =>
          obtain rfl : e = error := Option.some.inj found
          have sees : r.attend .lookAtRunnable =
              some (leave { r with running := running } (.error e)) :=
            attend_eq_some_iff.2 ⟨rfl, rfl, by simp [Run.step, lookAtRunnable, stage, looks]⟩
          exact .before sees (canReturn_of_stopping rfl)

/-- A run that starts its runnables starts those that are left. -/
theorem canReturn_of_starting (named : r.running.Named r.manager.runnables)
    (stage : r.stage = .starting) (failed : r.running.firstFailure? = some error) :
    r.CanReturn (.error error) := by
  induction left : r.manager.runnables.length - r.running.spawned generalizing r with
  | zero =>
      have all : r.manager.runnables[r.running.spawned]? = none :=
        List.getElem?_eq_none_iff.2 (Nat.sub_eq_zero_iff_le.1 left)
      have holds : r.attend .start = some { r with
          stage := .holding (r.elector.map fun elector => .hold elector r.stopped r.now) } :=
        attend_eq_some_iff.2 ⟨rfl, rfl, by simp only [Run.step, start, stage, all]⟩
      exact .before holds (canReturn_of_holding named rfl failed)
  | succ n ih =>
      have more : r.running.spawned < r.manager.runnables.length := by omega
      have next := List.getElem?_eq_getElem more
      have starts : r.attend .start = some
          { r with running := r.running.spawn r.manager.runnables[r.running.spawned] } :=
        attend_eq_some_iff.2 ⟨rfl, rfl, by simp only [Run.step, start, stage, next]⟩
      refine .before starts (ih (named.spawn next) stage ?_ ?_)
      · rw [named.firstFailure?_spawn, failed]
      · simp only [TaskGroup.spawn]
        omega

/-- What has failed was started. -/
theorem Orderly.started_of_failure (h : r.Orderly)
    (failed : r.running.firstFailure? = some error) : Stage.starting.rank ≤ r.stage.rank := by
  refine Nat.le_of_not_lt fun early => ?_
  rw [h.unstarted early] at failed
  cases failed

theorem Reckons.eq_of_verdict? (h : r.Reckons (some error)) (result : Result)
    (is_verdict : r.stage.verdict? = some result) : result = .error error := by
  obtain ⟨-, e, same, rfl⟩ := h.decided result is_verdict
  rw [Option.some.inj same]

theorem Reckons.canReturn (h : r.Reckons (some error)) (orderly : r.Orderly)
    (going : ∀ crash, r.stage ≠ .crashed crash) : r.CanReturn (.error error) := by
  have pending := h.pending
  cases stage : r.stage with
  | starting =>
      exact canReturn_of_starting h.named stage (pending (by simp [stage, Stage.verdict?]))
  | holding c? =>
      exact canReturn_of_holding h.named stage (pending (by simp [stage, Stage.verdict?]))
  | stopping result since =>
      obtain rfl := h.eq_of_verdict? result (by simp [stage, Stage.verdict?])
      exact canReturn_of_stopping stage
  | closing result since =>
      obtain rfl := h.eq_of_verdict? result (by simp [stage, Stage.verdict?])
      exact canReturn_of_closing stage
  | returned result =>
      obtain rfl := h.eq_of_verdict? result (by simp [stage, Stage.verdict?])
      exact canReturn_of_returned stage
  | crashed crash => exact absurd stage (going crash)
  | binding | campaigning | syncing =>
      have started := orderly.started_of_failure (pending (by simp [stage, Stage.verdict?]))
      simp [stage, Stage.rank] at started

/-! ### The time it takes -/

theorem isPast_begin (m : Manager) (now : Instant) :
    (begin m now).stage.IsPast (begin m now).now := trivial

theorem isPast_of_step (h : r.stage.IsPast r.now) (hs : r.step action = some r') :
    r'.stage.IsPast r'.now := by
  cases proceeds_of_step hs with
  | passed later => exact h.mono later
  | answered | woken | stoppedCampaign | shutdown | halted => simpa using h
  | abandoned | released | unsynced | stoppedSyncing | stoppedHolding | serviceFailed
  | runnableFailed | runnablesDone | runnablesCut => exact Nat.le_refl _
  | lost => simp [leave, Stage.IsPast]
  | informed | ticked | started | serviceEnded | runnableEnded | serviceClean | runnableClean =>
      exact h
  | _ => trivial

/-- No time passes before the run has looked at its first failure. -/
theorem Reckons.ready (h : r.Reckons (some error)) (orderly : r.Orderly)
    (undecided : r.stage.verdict? = none) (going : ∀ crash, r.stage ≠ .crashed crash) :
    r.isReady := by
  have failed := h.pending undecided
  have started := orderly.started_of_failure failed
  cases stage : r.stage with
  | starting => simp [isReady, stage]
  | holding c? =>
      have waiting : r.running.ended ≠ [] := fun none_ended => by
        simp [TaskGroup.firstFailure?, none_ended] at failed
      simp [isReady, stage, waiting]
  | crashed crash => exact absurd stage (going crash)
  | stopping | closing | returned => simp [stage, Stage.verdict?] at undecided
  | binding | campaigning | syncing => simp [stage, Stage.rank] at started

variable {failed : Instant}

theorem isInTime_close (h : r.now ≤ failed + gracePeriod.nanos) (result : Result) :
    (r.close result).stage.IsInTime failed (r.close result).now := ⟨h, Nat.le_add_right_of_le h⟩

theorem le_of_prompt {now : Instant}
    (stage : r.stage = .stopping result since ∨ r.stage = .closing result since)
    (prompt : r.dawdles (.pass now) = false) : now ≤ since + gracePeriod.nanos := by
  have waits := (Bool.or_eq_false_iff.1 prompt).2
  rcases stage with stage | stage <;> simpa [stage] using waits

theorem isInTime_of_step (h : r.stage.IsInTime failed r.now) (reckons : r.Reckons (some error))
    (orderly : r.Orderly) (hs : r.attend action = some r') :
    r'.stage.IsInTime failed r'.now := by
  obtain ⟨-, prompt, hs⟩ := attend_eq_some_iff.1 hs
  cases proceeds_of_step hs with
  | @passed now later =>
      have ready := reckons.ready orderly
      have idle : r.isReady = false := by simpa using (Bool.or_eq_false_iff.1 prompt).1
      cases stage : r.stage with
      | stopping result since =>
          obtain ⟨before, -⟩ : _ ∧ _ := by simpa [stage, Stage.IsInTime] using h
          have in_time := le_of_prompt (.inl stage) prompt
          exact ⟨before, Nat.le_trans in_time (Nat.add_le_add_right before _)⟩
      | closing result since =>
          obtain ⟨before, -⟩ : _ ∧ _ := by simpa [stage, Stage.IsInTime] using h
          have in_time := le_of_prompt (.inr stage) prompt
          exact ⟨before, Nat.le_trans in_time (Nat.add_le_add_right before _)⟩
      -- before the failure is looked at the run is ready, and no time passes
      | returned | crashed => trivial
      | binding | campaigning | syncing | starting | holding =>
          simp [idle, stage, Stage.verdict?] at ready
  | answered | woken | stoppedCampaign | shutdown | halted => simpa using h
  | lost stage | released stage | stoppedHolding _ stage | runnableFailed stage =>
      have early := h.early (by simp [stage, Stage.rank])
      simpa [leave, Stage.IsInTime] using ⟨early, Nat.le_add_right_of_le early⟩
  | abandoned stage | unsynced stage | stoppedSyncing _ stage | runnablesDone stage
  | runnablesCut stage =>
      exact isInTime_close (h.waiting (by simp [stage, Stage.rank])) _
  | serviceFailed notices => exact isInTime_close (h.waiting (rank_of_notices notices).2) _
  | bound stage | unopposed stage | campaigned stage | acquired stage | synced stage | found stage
  | held stage =>
      simpa [Stage.IsInTime] using h.early (by simp [stage, Stage.rank])
  | informed | ticked | started | serviceEnded | runnableEnded | serviceClean | runnableClean =>
      exact h
  | unbound | crashed | backgroundDone | backgroundCut => trivial

/-! ### What the run returns -/

/-- What is known of an undisturbed run after some actions. -/
structure Attested (m : Manager) (actions : List Action) (r : Run) : Prop where
  manager : r.manager = m
  reckons : r.Reckons (firstFailure? m actions)
  orderly : r.Orderly
  past : r.stage.IsPast r.now

theorem attested_of_run {m : Manager} {now : Instant}
    (run : runFrom (barring step disturbs) (begin m now) actions = some r) :
    r.Attested m actions := by
  refine runFrom_history (P := Attested m) ?_
    ⟨rfl, reckons_begin m now, orderly_begin m now, isPast_begin m now⟩ run
  intro past s action s' h hs
  obtain ⟨calm, hs⟩ := barring_eq_some_iff.1 hs
  refine ⟨(manager_of_step hs).trans h.manager, ?_, h.orderly.step hs, isPast_of_step h.past hs⟩
  have next := h.reckons.step calm hs
  simpa [firstFailure?, List.findSome?_append, h.manager] using next

/-- What holds of an undisturbed run that does at once what it has to do, from its first failure
on. -/
theorem Attested.attend {m : Manager} {more : List Action} (h : r.Attested m actions)
    (first : firstFailure? m actions = some error) (run : runFrom Run.attend r more = some r') :
    r'.Reckons (some error) ∧ r'.stage.IsInTime r.now r'.now := by
  have start : r.Reckons (some error) := first ▸ h.reckons
  suffices all : r'.Reckons (some error) ∧ r'.Orderly ∧ r'.stage.IsInTime r.now r'.now from
    ⟨all.1, all.2.2⟩
  refine runFrom_invariant (P := fun t => t.Reckons (some error) ∧ t.Orderly ∧
    t.stage.IsInTime r.now t.now) ?_ ⟨start, h.orderly, h.past.isInTime⟩ run
  rintro s action s' ⟨reckons, orderly, in_time⟩ hs
  obtain ⟨calm, -, step⟩ := attend_eq_some_iff.1 hs
  exact ⟨by simpa using reckons.step calm step, orderly.step step,
    isInTime_of_step in_time reckons orderly hs⟩

/-- As long as all runnables that have ended did so cleanly, an undisturbed run goes on without a
stop. From the first failure on nothing else can become of it than that failure, which it returns
after everything was told to stop; and it returns within two grace periods when it does at once
what it has to do, unless its election crashes. -/
theorem first_failure_decides (m : Manager) (now : Instant) (actions : List Action) (r : Run)
    (run : runFrom (barring step disturbs) (begin m now) actions = some r) :
    (firstFailure? m actions = none → r.result? = none ∧ r.stopped = false) ∧
    ∀ error, firstFailure? m actions = some error →
      (∀ result, r.stage.verdict? = some result → result = .error error ∧ r.stopped) ∧
      ((∀ crash, r.stage ≠ .crashed crash) → r.CanReturn (.error error)) ∧
      ∀ more r', runFrom attend r more = some r' →
        r'.result? = some (.error error) ∨ r'.now ≤ r.now + 2 * gracePeriod.nanos ∨
          ∃ crash, r'.stage = .crashed crash := by
  have h := attested_of_run run
  refine ⟨fun none_failed => ?_, fun error first => ?_⟩
  · have undecided : r.stage.verdict? = none := by
      refine Option.eq_none_iff_forall_ne_some.2 fun result is_verdict => ?_
      obtain ⟨-, error, failed, -⟩ := h.reckons.decided result is_verdict
      exact nomatch none_failed.symm.trans failed
    refine ⟨?_, (h.reckons.steady.going undecided).unstopped⟩
    refine Option.eq_none_iff_forall_ne_some.2 fun result returned => ?_
    simp [result?_eq_some_iff.1 returned, Stage.verdict?] at undecided
  · have reckons : r.Reckons (some error) := first ▸ h.reckons
    refine ⟨fun result is_verdict => ?_, reckons.canReturn h.orderly, fun more r' onward => ?_⟩
    · exact ⟨reckons.eq_of_verdict? result is_verdict, (reckons.decided result is_verdict).1⟩
    · obtain ⟨reckons', in_time⟩ := h.attend first onward
      refine in_time.le_two.imp_left ?_
      rintro ⟨result, stage⟩
      obtain rfl := reckons'.eq_of_verdict? result (by simp [stage, Stage.verdict?])
      exact result?_eq_some_iff.2 stage

/-- A manager without an election that has two runnables of one name. -/
def repeating : Manager := { caching with runnables := ["controller", "webhook", "controller"] }

/-- All runnables are started. The first one ends, and while nobody looks the last one fails and
then the second one panics. -/
def failures : List Action :=
  [.lead ⟨0, 0⟩, .inform 0 .go, .inform 0 (.page ⟨[], none⟩), .look, .look, .start, .start, .start,
    .start, .runnableEnds 0 .clean, .runnableEnds 2 (.failed "out of disk"),
    .runnableEnds 1 .panicked]

theorem first_failure_decides_repeating :
    ∃ r, runFrom (barring step disturbs) (begin repeating 0) failures = some r ∧
      r.CanReturn (.error (.runnable "controller" "out of disk")) :=
  ⟨_, rfl, ((first_failure_decides repeating 0 failures _ rfl).2 _ rfl).2.1 (by rintro crash ⟨⟩)⟩

/-- A manager with a health server. -/
def probed : Manager :=
  { caching with plan := { caching.plan with health := some ⟨.v4 ⟨[10, 0, 0, 2], rfl⟩, 8081⟩ } }

/-- A run whose listener cannot be bound returns although nothing has ended and nobody was told to
stop. -/
theorem unbound_returns :
    ∃ r, runFrom step (begin probed 0) [.bind (some "address in use")] = some r ∧
      firstFailure? probed [.bind (some "address in use")] = none ∧
      r.result? = some (.error (.bind "10.0.0.2:8081" "address in use")) :=
  ⟨_, rfl, rfl, rfl⟩

end Run

end GatedManager.Manager
