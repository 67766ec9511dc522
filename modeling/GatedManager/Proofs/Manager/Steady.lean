import GatedManager.Proofs.Manager.Course

/-!
# Runs that nothing disturbs

A run is disturbed by the shutdown signal, by a runnable that cancels its stop token, by a listener
that cannot be bound, by a lost lease and by a failure in the background. As long as none of these
comes up, the run is not stopped, its campaign goes on and its wait for the cache does not fail, so
that nothing decides what it returns but the failure of a runnable.
-/

namespace GatedManager.Manager

open Election (Campaign)

/-- What a run is going to return or has returned, once that is decided. -/
def Stage.verdict? : Stage → Option Result
  | stopping result _ => some result
  | closing result _ => some result
  | returned result => some result
  | _ => none

@[simp] theorem Stage.verdict?_withCampaign (stage : Stage) (c : Campaign) :
    (stage.withCampaign c).verdict? = stage.verdict? := by
  unfold withCampaign
  split <;> rfl

namespace Run

/-- Whether the run is about to give up a lease that it has lost. -/
def hasLost (r : Run) : Bool :=
  match r.stage with
  | .holding (some c) => c.outcome? = some .lost
  | _ => false

def disturbs (r : Run) : Action → Bool
  | .bind failure => failure.isSome
  | .conclude => r.hasLost
  | .shutdown => true
  | .halt => true
  | .serviceEnds _ ending => ending ≠ .clean
  | _ => false

variable {r r' : Run} {action : Action} {actions : List Action}

/-- What is known of an undisturbed run as long as nothing is decided. -/
structure Going (r : Run) : Prop where
  unstopped : r.stopped = false
  seeks : ∀ c, r.stage = .campaigning c → c.Seeks
  keeps : ∀ c, r.stage = .holding (some c) → c.Keeps
  cached : r.cache.phase = .ended → r.cache.cells = []

/-- What is known of an undisturbed run at any time. -/
structure Steady (r : Run) : Prop where
  background : ∀ p ∈ r.background.ended, p.2 = .clean
  going : r.stage.verdict? = none → r.Going

theorem undecided_of_campaign? {c : Campaign} (ongoing : r.campaign? = some c) :
    r.stage.verdict? = none := by
  unfold campaign? at ongoing
  split at ongoing
  case h_1 stage => simp [stage, Stage.verdict?]
  case h_2 stage => simp [stage, Stage.verdict?]
  case h_3 => cases ongoing

/-! ### What a step leaves of it -/

theorem steady_begin (m : Manager) (now : Instant) : (begin m now).Steady :=
  ⟨by simp [begin], fun _ => ⟨rfl, by rintro c ⟨⟩, by rintro c ⟨⟩, by simp [begin]⟩⟩

theorem clean_of_step (h : r.Steady) (calm : r.disturbs action = false)
    (hs : r.step action = some r') : ∀ p ∈ r'.background.ended, p.2 = .clean := by
  have clean := h.background
  have looked : ∀ {failure? background}, r.background.look? = some (failure?, background) →
      ∀ p ∈ background.ended, p.2 = .clean := by
    intro failure? background looks p later
    obtain ⟨task, ending, rest, is_ended, -, rfl⟩ := TaskGroup.look?_eq_some_iff.1 looks
    exact clean p (is_ended ▸ List.mem_cons_of_mem _ later)
  cases proceeds_of_step hs with
  | serviceEnded =>
      intro p is_ended
      rcases TaskGroup.mem_ended_finish is_ended with before | rfl
      · exact clean p before
      · simpa [disturbs] using calm
  | serviceClean _ looks | serviceFailed _ looks => exact looked looks
  | answered | woken | stoppedCampaign | shutdown | halted | acquired => simpa using clean
  | campaigned => simpa [TaskGroup.spawn] using clean
  | lost => simpa [leave] using clean
  | _ => exact clean

theorem Going.withCampaign {c c' : Campaign} (h : r.Going) (ongoing : r.campaign? = some c)
    (seeks : c.Seeks → c'.Seeks) (keeps : c.Keeps → c'.Keeps) : (r.withCampaign c').Going := by
  unfold campaign? at ongoing
  split at ongoing
  case h_1 c stage =>
    obtain rfl := Option.some.inj ongoing
    refine ⟨by simpa using h.unstopped, ?_, ?_, by simpa using h.cached⟩
    · intro c'' same
      obtain rfl : c' = c'' := by simpa [stage, Stage.withCampaign] using same
      exact seeks (h.seeks c stage)
    · intro c'' same
      simp [stage, Stage.withCampaign] at same
  case h_2 c? stage =>
    subst ongoing
    refine ⟨by simpa using h.unstopped, ?_, ?_, by simpa using h.cached⟩
    · intro c'' same
      simp [stage, Stage.withCampaign] at same
    · intro c'' same
      obtain rfl : c' = c'' := by simpa [stage, Stage.withCampaign] using same
      exact keeps (h.keeps c stage)
  case h_3 => cases ongoing

/-- Only an empty cache has ended while the run goes on. -/
theorem Going.cached_start (h : r.Going) (now : Instant)
    (ended : (r.cache.start now).phase = .ended) : r.cache.cells = [] := by
  rw [Cache.start_eq] at ended
  simp only at ended
  split at ended
  · split at ended
    case isTrue empty => exact List.isEmpty_iff.1 empty
    case isFalse => cases ended
  · exact h.cached ended

theorem Going.cached_after {task : Nat} {name : String} {ending : Ending} (h : r.Going)
    (calm : r.disturbs (.serviceEnds task ending) = false) (may : r.mayEnd name ending) :
    (if name = cacheTask then r.cache.stop else r.cache).phase = .ended →
      (if name = cacheTask then r.cache.stop else r.cache).cells = [] := by
  obtain rfl : ending = .clean := by simpa [disturbs] using calm
  by_cases is_cache : name = cacheTask
  · simpa [is_cache, Cache.stop, mayEnd, h.unstopped] using may
  · simpa [is_cache] using h.cached

theorem Going.step (going : r.stage.verdict? = none → r.Going) (calm : r.disturbs action = false)
    (hs : r.step action = some r') (undecided : r'.stage.verdict? = none) : r'.Going := by
  cases proceeds_of_step hs with
  | passed | started | runnableEnded | serviceClean | runnableClean =>
      have h := going undecided
      exact ⟨h.unstopped, h.seeks, h.keeps, h.cached⟩
  | bound stage =>
      have h := going (by simp [stage, Stage.verdict?])
      exact ⟨h.unstopped, by rintro c ⟨⟩, by rintro c ⟨⟩, h.cached⟩
  | unopposed stage =>
      have h := going (by simp [stage, Stage.verdict?])
      exact ⟨h.unstopped, by rintro c ⟨⟩, by rintro c ⟨⟩, by simpa using h.cached_start r.now⟩
  | campaigned stage =>
      have h := going (by simp [stage, Stage.verdict?])
      refine ⟨by simpa using h.unstopped, ?_, by rintro c ⟨⟩, by simpa using h.cached_start r.now⟩
      rintro c ⟨⟩
      rw [h.unstopped]
      exact Campaign.seeks_acquire _ _
  | answered ongoing waits goes_on =>
      have h := going (by simpa using undecided)
      exact h.withCampaign ongoing (·.answer waits goes_on) (·.answer waits goes_on)
  | woken ongoing _ clock =>
      have h := going (by simpa using undecided)
      exact h.withCampaign ongoing (·.wake _ clock) (·.wake _ clock)
  | stoppedCampaign stopped =>
      have h := going (by simpa using undecided)
      cases h.unstopped.symm.trans stopped
  | crashed ongoing =>
      have h := going (undecided_of_campaign? ongoing)
      exact ⟨h.unstopped, by rintro c ⟨⟩, by rintro c ⟨⟩, h.cached⟩
  | acquired stage =>
      have h := going (by simp [stage, Stage.verdict?])
      exact ⟨by simpa using h.unstopped, by rintro c ⟨⟩, by rintro c ⟨⟩, by simpa using h.cached⟩
  | informed cell input =>
      have h := going undecided
      refine ⟨h.unstopped, h.seeks, h.keeps, fun ended => ?_⟩
      rw [Cache.phase_take] at ended
      simpa [Cache.take, ended] using h.cached ended
  | ticked =>
      have h := going undecided
      exact ⟨h.unstopped, h.seeks, h.keeps, by simpa using h.cached⟩
  | synced stage | found stage =>
      have h := going (by simp [stage, Stage.verdict?])
      exact ⟨h.unstopped, by rintro c ⟨⟩, by rintro c ⟨⟩, h.cached⟩
  | held stage =>
      have h := going (by simp [stage, Stage.verdict?])
      refine ⟨h.unstopped, by rintro c ⟨⟩, fun c is_campaign => ?_, h.cached⟩
      obtain ⟨e, -, rfl⟩ := Option.map_eq_some_iff.1 (Stage.holding.inj is_campaign)
      rw [h.unstopped]
      exact Campaign.keeps_hold e r.now
  | serviceEnded live named may =>
      have h := going undecided
      exact ⟨h.unstopped, h.seeks, h.keeps, h.cached_after calm may⟩
  | shutdown | halted => cases calm
  | _ => cases undecided

theorem Steady.step (h : r.Steady) (calm : r.disturbs action = false)
    (hs : r.step action = some r') : r'.Steady :=
  ⟨clean_of_step h calm hs, Going.step h.going calm hs⟩

/-- What an undisturbed run returns is decided by nothing but the failure of a runnable that the
run looks at while it holds. -/
theorem Steady.verdict_of_step (h : r.Steady) (calm : r.disturbs action = false)
    (hs : r.step action = some r') :
    r'.stage.verdict? = r.stage.verdict? ∨ ∃ c? error running, r.stage = .holding c? ∧
      r.running.look? = some (some error, running) ∧
      r' = leave { r with running := running } (.error error) := by
  have going := h.going
  cases proceeds_of_step hs with
  | runnableFailed stage looks => exact .inr ⟨_, _, _, stage, looks, rfl⟩
  | answered | woken | stoppedCampaign => exact .inl (by simp)
  | passed | informed | ticked | started | serviceEnded | runnableEnded | serviceClean
  | runnableClean => exact .inl rfl
  | bound stage | unopposed stage | campaigned stage | acquired stage | synced stage | found stage
  | held stage | runnablesDone stage | runnablesCut stage | backgroundDone stage
  | backgroundCut stage => exact .inl (by simp [stage, close, Stage.verdict?])
  | crashed ongoing => exact .inl (undecided_of_campaign? ongoing).symm
  | abandoned stage is_outcome other =>
      have seeks := (going (by simp [stage, Stage.verdict?])).seeks _ stage
      exact absurd (seeks.acquired is_outcome) other
  | released stage is_outcome other =>
      have keeps := (going (by simp [stage, Stage.verdict?])).keeps _ stage
      exact absurd (keeps.lost is_outcome) other
  | lost stage outcome => simp [disturbs, hasLost, stage, outcome] at calm
  | unsynced stage is_cell _ ended =>
      have empty := (going (by simp [stage, Stage.verdict?])).cached ended
      simp [Cache.kept_of_cells_eq_nil empty] at is_cell
  | stoppedSyncing stopped stage | stoppedHolding stopped stage =>
      have unstopped := (going (by simp [stage, Stage.verdict?])).unstopped
      cases unstopped.symm.trans stopped
  | serviceFailed _ looks =>
      obtain ⟨task, ending, rest, is_ended, failure, -⟩ := TaskGroup.look?_eq_some_iff.1 looks
      obtain rfl : ending = .clean := h.background (task, ending) (is_ended ▸ List.mem_cons_self)
      cases failure
  | unbound | shutdown | halted => cases calm

end Run

end GatedManager.Manager
