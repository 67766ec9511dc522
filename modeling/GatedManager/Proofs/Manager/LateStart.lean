import GatedManager.Proofs.Manager.Course

/-!
# Starts after the shutdown signal

The signal is looked at while a run campaigns and while it waits for the cache, and not between
the starts of its runnables. The wait for the cache ends with whatever has come, the stop or the
last store, and may go on to the runnables when both have. So a runnable is started after the
signal in two ways: the signal fires between the starts, or the wait overlooks it.
-/

namespace GatedManager.Manager.Run

variable {r r' : Run} {action : Action}

/-- Whether the wait for the cache has seen all its stores. -/
def hasSynced (r : Run) : Bool :=
  match r.stage with
  | .syncing ready => r.cache.kept[ready]?.isNone
  | _ => false

theorem hasSynced_iff :
    r.hasSynced ↔ ∃ n, r.stage = .syncing n ∧ r.cache.kept[n]? = none := by
  unfold hasSynced
  split
  case h_1 n syncing => simp [syncing]
  case h_2 other => exact ⟨nofun, fun ⟨n, syncing, _⟩ => absurd syncing (other n)⟩

/-- The steps that overlook the shutdown signal: it fires while runnables are still to be started,
or the wait for the cache ends as if it had not fired. -/
def overlooks (r : Run) : Action → Bool
  | .shutdown => r.next?.isSome
  | .look => r.shutdown && r.hasSynced && !r.manager.runnables.isEmpty
  | _ => false

/-- Whether no runnable of a manager is started any more once the signal has fired, in its runs
without the barred steps. -/
def StartsNothingLate (barred : Run → Action → Bool) (m : Manager) : Prop :=
  ∀ (now : Instant) (before after : List Action) (r r' : Run),
    runFrom (barring step barred) (begin m now) before = some r → r.shutdown →
    runFrom (barring step barred) r after = some r' → r'.running.spawned = r.running.spawned

/-! ### Runs that overlook nothing -/

theorem shutdown_of_step (h : r.step action = some r') (fired : r'.shutdown) :
    r.shutdown ∨ action = .shutdown := by
  cases proceeds_of_step h with
  | shutdown => exact .inr rfl
  | answered | woken | stoppedCampaign | halted | campaigned | acquired =>
      exact .inl (by simpa using fired)
  | lost => exact .inl (by simpa [leave] using fired)
  | _ => exact .inl fired

/-- The stage of the runnables begins with the end of the wait for the cache. -/
theorem starting_of_step (h : r.step action = some r') (starting : r'.stage = .starting) :
    r.stage = .starting ∨ action = .look ∧ r.hasSynced := by
  cases proceeds_of_step h with
  | synced syncing all => exact .inr ⟨rfl, hasSynced_iff.2 ⟨_, syncing, all⟩⟩
  | answered | woken | stoppedCampaign | shutdown | halted =>
      exact .inl (by simpa using starting)
  | passed | informed | ticked | started | serviceEnded | runnableEnded | serviceClean
  | runnableClean => exact .inl starting
  | _ => cases starting

/-- A runnable is to be started next after a step if one was before, or by the end of the wait. -/
theorem next?_of_step {name : String} (h : r.step action = some r') (next : r'.next? = some name) :
    r.next?.isSome ∨ action = .look ∧ r.hasSynced ∧ r.manager.runnables ≠ [] := by
  obtain ⟨starting', is_next⟩ := next?_eq_some_iff.1 next
  rw [manager_of_step h] at is_next
  rcases starting_of_step h starting' with starting | ⟨looks, synced⟩
  · refine .inl (Option.isSome_iff_exists.2 ?_)
    rcases spawned_of_step h with same | ⟨-, -, first, is_first, -⟩
    · exact ⟨name, next?_eq_some_iff.2 ⟨starting, same ▸ is_next⟩⟩
    · exact ⟨first, next?_eq_some_iff.2 ⟨starting, is_first⟩⟩
  · exact .inr ⟨looks, synced, List.ne_nil_of_mem (List.mem_of_getElem? is_next)⟩

/-- Once the signal has fired no runnable is to be started any more. -/
def IsPunctual (r : Run) : Prop := r.shutdown → r.next? = none

theorem IsPunctual.step (h : r.IsPunctual)
    (hs : barring Run.step overlooks r action = some r') : r'.IsPunctual := by
  obtain ⟨heeds, hs⟩ := barring_eq_some_iff.1 hs
  intro fired'
  refine Option.eq_none_iff_forall_ne_some.2 fun name next => ?_
  rcases next?_of_step hs next with before | ⟨rfl, synced, some_left⟩
  · rcases shutdown_of_step hs fired' with fired | rfl
    · simp [h fired] at before
    -- the signal fires between two starts
    · simp [overlooks, before] at heeds
  · rcases shutdown_of_step hs fired' with fired | is
    -- the wait for the cache ends after the signal
    · simp [overlooks, fired, synced, some_left] at heeds
    · cases is

theorem IsPunctual.run {actions : List Action} (h : r.IsPunctual)
    (run : runFrom (barring Run.step overlooks) r actions = some r') : r'.IsPunctual :=
  runFrom_invariant (fun _ _ _ h hs => h.step hs) h run

theorem isPunctual_begin (m : Manager) (now : Instant) : (begin m now).IsPunctual := fun _ => rfl

theorem shutdown_stays (h : r.step action = some r') (fired : r.shutdown) : r'.shutdown := by
  cases proceeds_of_step h with
  | answered | woken | stoppedCampaign | halted | campaigned | acquired => simpa using fired
  | shutdown => simp
  | lost => simpa [leave] using fired
  | _ => exact fired

/-- A punctual run starts nothing after the signal, however it goes on. -/
theorem IsPunctual.spawned {actions : List Action} (h : r.IsPunctual) (fired : r.shutdown)
    (run : runFrom (barring Run.step overlooks) r actions = some r') :
    r'.running.spawned = r.running.spawned := by
  refine (runFrom_invariant (P := fun s => s.IsPunctual ∧ s.shutdown = true ∧
    s.running.spawned = r.running.spawned) ?_ ⟨h, fired, rfl⟩ run).2.2
  rintro s action s' ⟨punctual, fired, same⟩ hs
  have hs' := (barring_eq_some_iff.1 hs).2
  refine ⟨punctual.step hs, shutdown_stays hs' fired, ?_⟩
  rcases spawned_of_step hs' with still | ⟨-, starting, name, next, -⟩
  · exact still.trans same
  · exact nomatch (punctual fired).symm.trans (next?_eq_some_iff.2 ⟨starting, next⟩)

/-! ### Runs that overlook the signal -/

/-- After a step that overlooks the signal the next runnable is started. -/
theorem starts_of_overlooks (orderly : r.Orderly) (overlooked : r.overlooks action)
    (hs : r.step action = some r') :
    r'.shutdown ∧ ∃ r'', r'.step .start = some r'' ∧
      r''.running.spawned = r'.running.spawned + 1 := by
  have starts : ∀ {s : Run} {name : String}, s.next? = some name →
      ∃ s', s.step .start = some s' ∧ s'.running.spawned = s.running.spawned + 1 := by
    intro s name next
    obtain ⟨starting, is_next⟩ := next?_eq_some_iff.1 next
    refine ⟨{ s with running := s.running.spawn name }, ?_, rfl⟩
    simp only [Run.step, start, starting, is_next]
  unfold overlooks at overlooked
  split at overlooked
  case h_1 =>
    obtain ⟨name, next⟩ := Option.isSome_iff_exists.1 overlooked
    obtain ⟨starting, is_next⟩ := next?_eq_some_iff.1 next
    obtain rfl := Option.some.inj hs
    exact ⟨by simp, starts (next?_eq_some_iff.2 ⟨by simp [starting], by simpa using is_next⟩)⟩
  case h_2 =>
    obtain ⟨⟨fired, synced⟩, some_left⟩ : (r.shutdown = true ∧ r.hasSynced = true) ∧
        r.manager.runnables ≠ [] := by simpa using overlooked
    refine ⟨shutdown_stays hs fired, ?_⟩
    obtain ⟨n, syncing, all⟩ := hasSynced_iff.1 synced
    obtain rfl : { r with stage := .starting } = r' := by
      simpa [Run.step, look, syncing, all] using hs
    obtain ⟨name, others, runnables⟩ := List.exists_cons_of_ne_nil some_left
    have idle := orderly.unstarted (by simp [precedesStart, syncing, Stage.rank])
    exact @starts _ name (next?_eq_some_iff.2 ⟨rfl, by simp [idle, runnables]⟩)
  case h_3 => cases overlooked

/-- No runnable is started after the shutdown signal in a run that overlooks it nowhere. Wherever
a run overlooks it, the next runnable can be started after it. -/
theorem nothing_starts_late (m : Manager) :
    StartsNothingLate overlooks m ∧
    ∀ (now : Instant) (actions : List Action) (r : Run) (action : Action) (r' : Run),
      runFrom step (begin m now) actions = some r → r.overlooks action →
      r.step action = some r' →
      r'.shutdown ∧ ∃ r'', r'.step .start = some r'' ∧
        r''.running.spawned = r'.running.spawned + 1 := by
  refine ⟨?_, ?_⟩
  · intro now before after r r' run fired later
    exact ((isPunctual_begin m now).run run).spawned fired later
  · intro now actions r action r' run overlooked hs
    exact starts_of_overlooks ((orderly_begin m now).run run) overlooked hs

/-- The signal fires after the list of machines is complete, and the wait for them ends as if it had
not. -/
theorem caching_starts_late : ¬StartsNothingLate (fun _ _ => false) caching := by
  intro punctual
  have late := punctual 0
    [.lead ⟨0, 0⟩, .inform 0 .go, .inform 0 (.page ⟨[], none⟩), .look, .shutdown]
    [.look, .start] _ _ rfl rfl rfl
  exact absurd late (by decide)

end GatedManager.Manager.Run
