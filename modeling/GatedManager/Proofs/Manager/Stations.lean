import GatedManager.Proofs.Election.Authorship
import GatedManager.Proofs.Manager.Course

/-!
# The stations on the way to the runnables

A run that comes to its runnables has passed certain stations: all its listeners are bound, the
election it stands in was entered with its own elector, and the stores of its cache were found
ready one after the other. What was found once stays so, however the run goes on.
-/

namespace GatedManager.Manager

open Election (Campaign Elector)

/-- The servers whose listeners are still to be bound. -/
def Stage.unbound : Stage → List Server
  | binding listeners => listeners.map Prod.fst
  | _ => []

@[simp] theorem Stage.unbound_withCampaign (stage : Stage) (c : Campaign) :
    (stage.withCampaign c).unbound = stage.unbound := by
  unfold withCampaign
  split <;> rfl

@[simp] theorem Stage.unbound_signal (stage : Stage) : stage.signal.unbound = stage.unbound := by
  unfold signal
  split <;> rfl

theorem Stage.unbound_of_rank {stage : Stage} (h : 0 < stage.rank) : stage.unbound = [] := by
  cases stage with
  | binding => exact absurd h (Nat.lt_irrefl 0)
  | _ => rfl

/-- The servers of a plan, in the order in which their listeners are bound. -/
def Plan.servers (plan : Plan) : List Server := plan.listeners.map Prod.fst

namespace Run

variable {r r' : Run} {action : Action}

/-- Whether the run has come as far as the stages of this rank on its way to hold, and has not been
turned away before it started a runnable. -/
def Reaches (r : Run) (rank : Nat) : Prop :=
  rank ≤ r.stage.rank ∧ r.stage.rank < 5 ∨ r.running.spawned ≠ 0

/-- A run reaches a rank by a step from a stage below it. -/
theorem reaches_of_step {rank : Nat} (low : rank ≤ 3) (h : r.step action = some r')
    (reaches : r'.Reaches rank) :
    r.Reaches rank ∨ r.stage.rank < rank ∧ rank ≤ r'.stage.rank ∧ r'.stage.rank < 5 := by
  have later := rank_le_of_step h
  rcases reaches with ⟨above, below⟩ | some_started
  · by_cases before : rank ≤ r.stage.rank
    · exact .inl (.inl ⟨before, Nat.lt_of_le_of_lt later below⟩)
    · exact .inr ⟨Nat.lt_of_not_le before, above, below⟩
  · rcases spawned_of_step h with same | ⟨-, starting, -⟩
    · exact .inl (.inr (same ▸ some_started))
    · exact .inl (.inl (starting ▸ ⟨low, by decide⟩))

/-- The steps that bring a run further on its way to hold, with the rank they bring it to. -/
inductive Climb (r : Run) : Action → Nat → Prop
  | campaigned {clock : Timestamp} : Climb r (.lead clock) 1
  | unopposed {clock : Timestamp} (alone : r.elector = none) : Climb r (.lead clock) 2
  | acquired {c : Campaign} (stage : r.stage = .campaigning c)
      (outcome : c.outcome? = some .acquired) : Climb r .conclude 2
  | synced {n : Nat} (stage : r.stage = .syncing n) (all : r.cache.kept[n]? = none) :
      Climb r .look 3
  | held (stage : r.stage = .starting) : Climb r .start 4

theorem climb_of_step (h : r.step action = some r') (climbs : r.stage.rank < r'.stage.rank)
    (below : r'.stage.rank < 5) : r.Climb action r'.stage.rank := by
  cases proceeds_of_step h with
  | campaigned => exact .campaigned
  | unopposed _ alone => exact .unopposed alone
  | acquired stage outcome => exact .acquired stage outcome
  | synced stage all => exact .synced stage all
  | held stage => exact .held stage
  | bound stage | found stage => simp [stage, Stage.rank] at climbs
  | answered | woken | stoppedCampaign | shutdown | halted => simp at climbs
  | passed | informed | ticked | started | serviceEnded | runnableEnded | serviceClean
  | runnableClean => exact absurd climbs (Nat.lt_irrefl _)
  -- every other step ends the way up
  | _ => simp [Stage.rank, close, leave] at below

/-! ### The listeners -/

/-- The listeners that are bound and those that are still to be bound are those of the plan, unless
the run has returned without starting anything because one could not be bound. -/
def Listens (r : Run) : Prop :=
  r.bound ++ r.stage.unbound = r.manager.plan.servers ∨
    r.stage.rank = 7 ∧ r.running.spawned = 0

theorem listens_begin (m : Manager) (now : Instant) : (begin m now).Listens := .inl rfl

/-- A run that has not returned early has bound every listener once it is past that. -/
theorem Listens.bound (h : r.Listens) (begun : 0 < r.stage.rank)
    (on_way : r.stage.rank < 7 ∨ r.running.spawned ≠ 0) : r.bound = r.manager.plan.servers := by
  rcases h with all | ⟨returned, idle⟩
  · simpa [Stage.unbound_of_rank begun] using all
  · simp [returned, idle] at on_way

theorem Listens.step (h : r.Listens) (orderly : r.Orderly) (hs : r.step action = some r') :
    r'.Listens := by
  have bound := h.bound
  unfold Listens at *
  cases proceeds_of_step hs with
  | bound stage | unopposed stage | campaigned stage =>
      simpa [stage, Stage.unbound, Stage.rank] using h
  | unbound stage =>
      have idle := orderly.unstarted (by simp [precedesStart, stage, Stage.rank])
      exact .inr ⟨rfl, by simp [idle]⟩
  | answered | woken | stoppedCampaign | shutdown | halted => simpa using h
  | acquired stage | abandoned stage | lost stage | released stage | synced stage | found stage
  | unsynced stage | held stage | stoppedSyncing _ stage | stoppedHolding _ stage
  | runnableFailed stage | runnablesDone stage | runnablesCut stage | backgroundDone stage
  | backgroundCut stage =>
      left
      simpa [stage, Stage.unbound, Stage.rank, close, leave] using h
  | started stage => exact .inl (by simpa [stage, Stage.unbound, Stage.rank] using h)
  | crashed ongoing =>
      obtain ⟨begun, early⟩ := rank_of_campaign? ongoing
      exact .inl (by simpa [Stage.unbound] using bound begun (.inl (by omega)))
  | serviceFailed notices =>
      obtain ⟨begun, early⟩ := rank_of_notices notices
      exact .inl (by simpa [Stage.unbound, close] using bound begun (.inl (by omega)))
  | runnableEnded => simpa using h
  | runnableClean stage => exact .inl (by simpa [stage, Stage.unbound, Stage.rank] using h)
  | passed | informed | ticked | serviceEnded | serviceClean => exact h

/-! ### The election -/

/-- What is known of the electors of a run: there is one when there is an election, and each is
this replica. -/
structure Stands (r : Run) : Prop where
  stands : r.manager.plan.election.isSome → r.elector.isSome
  own : ∀ e, r.elector = some e → e.identity = r.manager.identity
  campaign : ∀ c, r.campaign? = some c → c.IsOwn r.manager.identity

theorem stands_begin (m : Manager) (now : Instant) : (begin m now).Stands := by
  refine ⟨?_, ?_, ?_⟩
  · simp [begin, elector?]
  · intro e is_elector
    obtain ⟨config, -, rfl⟩ := Option.map_eq_some_iff.1 is_elector
    rfl
  · rintro c ⟨⟩

/-- A campaign that goes on takes its new state. -/
theorem Stands.withCampaign {c c' : Campaign} (h : r.Stands) (ongoing : r.campaign? = some c)
    (own : c'.IsOwn r.manager.identity) : (r.withCampaign c').Stands := by
  have next : (r.withCampaign c').campaign? = some c' := by
    unfold campaign? at ongoing
    split at ongoing
    case h_1 hs => simp [campaign?, hs, Stage.withCampaign]
    case h_2 hs => simp [campaign?, hs, ongoing, Stage.withCampaign]
    case h_3 => cases ongoing
  refine ⟨by simpa using h.stands, by simpa using h.own, fun c is_campaign => ?_⟩
  obtain rfl := Option.some.inj (next.symm.trans is_campaign)
  simpa using own

theorem Stands.halt (h : r.Stands) : r.halt.Stands := by
  unfold Run.halt
  simp only
  split
  case h_1 c ongoing =>
    have stopped : Stands { r with stopped := true } := ⟨h.stands, h.own, h.campaign⟩
    exact stopped.withCampaign ongoing (h.campaign c ongoing).signal
  case h_2 => exact ⟨h.stands, h.own, h.campaign⟩

theorem Stands.step (h : r.Stands) (hs : r.step action = some r') : r'.Stands := by
  cases proceeds_of_step hs with
  | campaigned _ stands =>
      refine ⟨by simpa using h.stands, by simpa using h.own, ?_⟩
      rintro c ⟨⟩
      simpa using Campaign.isOwn_acquire (h.own _ stands) _ _
  | answered ongoing waits goes_on =>
      exact h.withCampaign ongoing ((h.campaign _ ongoing).answer waits goes_on)
  | woken ongoing _ clock => exact h.withCampaign ongoing ((h.campaign _ ongoing).wake clock)
  | stoppedCampaign _ ongoing => exact h.withCampaign ongoing (h.campaign _ ongoing).cancel
  | shutdown => exact ⟨h.halt.stands, h.halt.own, h.halt.campaign⟩
  | halted => exact h.halt
  | acquired stage =>
      refine ⟨fun _ => rfl, ?_, by rintro c ⟨⟩⟩
      rintro e ⟨⟩
      simpa using (h.campaign _ (by simp [campaign?, stage])).elector
  | held =>
      refine ⟨h.stands, h.own, fun c is_campaign => ?_⟩
      obtain ⟨e, is_elector, rfl⟩ := Option.map_eq_some_iff.1 is_campaign
      exact Campaign.isOwn_hold (h.own e is_elector) _
  | lost =>
      exact ⟨by simpa [leave] using h.stands, by simpa [leave] using h.own, by rintro c ⟨⟩⟩
  | passed | informed | ticked | started | serviceEnded | runnableEnded | serviceClean
  | runnableClean => exact ⟨h.stands, h.own, h.campaign⟩
  | _ => exact ⟨h.stands, h.own, by rintro c ⟨⟩⟩

/-- A run comes to wait for its cache when there is no election, or with a campaign that has
acquired the lease. -/
theorem leads_of_step (h : r.step action = some r') (before : r.stage.rank < 2)
    (above : 2 ≤ r'.stage.rank) (below : r'.stage.rank < 5) :
    r.elector = none ∨ ∃ c, r.stage = .campaigning c ∧ c.outcome? = some .acquired ∧
      action = .conclude := by
  have climb := climb_of_step h (Nat.lt_of_lt_of_le before above) below
  generalize r'.stage.rank = rank at climb above
  cases climb with
  | campaigned => exact absurd above (by decide)
  | unopposed alone => exact .inl alone
  | acquired stage outcome => exact .inr ⟨_, stage, outcome, rfl⟩
  | synced stage | held stage => exact absurd before (by simp [stage, Stage.rank])

/-! ### The cache -/

/-- The cells of the cache change only by an input for one of them. -/
theorem cells_of_step (h : r.step action = some r') :
    r'.cache.cells = r.cache.cells ∨
      ∃ n input, action = .inform n input ∧ r'.cache = r.cache.take n input r.now := by
  cases proceeds_of_step h with
  | informed n input => exact .inr ⟨n, input, rfl, rfl⟩
  | unopposed => exact .inl Cache.cells_start
  | campaigned => exact .inl (by simp)
  | ticked => exact .inl Cache.cells_tickTo
  | serviceEnded => exact .inl (by simp only; split <;> rfl)
  | answered | woken | stoppedCampaign | shutdown | halted | acquired => exact .inl (by simp)
  | lost => exact .inl (by simp [leave])
  | _ => exact .inl rfl

theorem collections_of_step (h : r.step action = some r') :
    r'.cache.collections = r.cache.collections := by
  rcases cells_of_step h with same | ⟨n, input, -, takes⟩
  · exact congrArg (List.map Cache.Cell.collection) same
  · rw [takes, Cache.collections_take]

theorem scheme_of_step (h : r.step action = some r') : r'.cache.scheme = r.cache.scheme := by
  cases proceeds_of_step h with
  | informed => exact Cache.scheme_take
  | unopposed => exact Cache.scheme_start
  | ticked => exact Cache.scheme_tickTo
  | serviceEnded => simp only; split <;> rfl
  | campaigned | answered | woken | stoppedCampaign | shutdown | halted | acquired => simp
  | lost => simp [leave]
  | _ => rfl

/-- The same stores are kept after a step, and one that is ready stays so. -/
theorem kept_of_step (h : r.step action = some r') :
    List.Forall₂ Cache.Cell.Gains r.cache.kept r'.cache.kept := by
  rcases cells_of_step h with same | ⟨n, input, -, takes⟩
  · have kept : r'.cache.kept = r.cache.kept := by
      simp only [Cache.kept, same, scheme_of_step h]
    rw [kept]
    exact List.forall₂_same.2 fun _ _ => ⟨rfl, id⟩
  · exact takes ▸ Cache.kept_take ..

theorem isReady_of_step {k : Nat} (h : r.step action = some r') (ready : r.cache.isReady k) :
    r'.cache.isReady k := Cache.isReady_of_gains (kept_of_step h) ready

/-- What is known of the cache of a run: its kinds and its collections are those of its manager, and
the stores that the wait for it has passed are ready. -/
structure Syncs (r : Run) : Prop where
  scheme : r.cache.scheme = r.manager.plan.scheme
  collections : r.cache.collections =
    (Cache.cellsOf r.manager.plan.scheme r.manager.plan.cache).map Cache.Cell.collection
  passed : ∀ n, r.stage = .syncing n → ∀ k < n, r.cache.isReady k
  synced : r.Reaches 3 → ∀ k < r.cache.kept.length, r.cache.isReady k

theorem syncs_begin (m : Manager) (now : Instant) : (begin m now).Syncs := by
  refine ⟨rfl, rfl, nofun, fun reaches => ?_⟩
  rcases reaches with ⟨above, -⟩ | some_started
  · exact absurd above (by simp [begin, Stage.rank])
  · exact absurd rfl some_started

/-- The wait for the cache goes on to the next store when it has found one ready. -/
theorem syncing_of_step {n : Nat} (h : r.step action = some r') (syncing : r'.stage = .syncing n) :
    n = 0 ∨ r.stage = .syncing n ∨
      ∃ m, n = m + 1 ∧ r.stage = .syncing m ∧ r.cache.isReady m := by
  cases proceeds_of_step h with
  | found stage is_cell is_ready =>
      obtain rfl := Stage.syncing.inj syncing
      exact .inr (.inr ⟨_, rfl, stage, by simp [Cache.isReady, is_cell, is_ready]⟩)
  | unopposed | acquired => exact .inl (Stage.syncing.inj syncing).symm
  | answered | woken | stoppedCampaign | shutdown | halted =>
      exact .inr (.inl (by simpa using syncing))
  | passed | informed | ticked | started | serviceEnded | runnableEnded | serviceClean
  | runnableClean => exact .inr (.inl syncing)
  | _ => cases syncing

/-- The wait for the cache is over when it has seen every store. -/
theorem synced_of_step (h : r.step action = some r') (before : r.stage.rank < 3)
    (above : 3 ≤ r'.stage.rank) (below : r'.stage.rank < 5) :
    ∃ n, r.stage = .syncing n ∧ r.cache.kept[n]? = none := by
  have climb := climb_of_step h (Nat.lt_of_lt_of_le before above) below
  generalize r'.stage.rank = rank at climb above
  cases climb with
  | campaigned | unopposed | acquired => exact absurd above (by decide)
  | synced stage all => exact ⟨_, stage, all⟩
  | held stage => exact absurd before (by simp [stage, Stage.rank])

theorem Syncs.step (h : r.Syncs) (hs : r.step action = some r') : r'.Syncs := by
  have length := (kept_of_step hs).length_eq
  refine ⟨?_, ?_, ?_, ?_⟩
  · rw [scheme_of_step hs, manager_of_step hs, h.scheme]
  · rw [collections_of_step hs, manager_of_step hs, h.collections]
  · intro n syncing k lt
    rcases syncing_of_step hs syncing with rfl | same | ⟨m, rfl, before, ready⟩
    · cases lt
    · exact isReady_of_step hs (h.passed n same k lt)
    · rcases Nat.lt_succ_iff_lt_or_eq.1 lt with earlier | rfl
      · exact isReady_of_step hs (h.passed m before k earlier)
      · exact isReady_of_step hs ready
  · intro reaches k lt
    rw [← length] at lt
    rcases reaches_of_step (Nat.le_refl 3) hs reaches with before | ⟨before, above, below⟩
    · exact isReady_of_step hs (h.synced before k lt)
    · obtain ⟨n, syncing, all⟩ := synced_of_step hs before above below
      have seen : k < n := Nat.lt_of_lt_of_le lt (List.getElem?_eq_none_iff.1 all)
      exact isReady_of_step hs (h.passed n syncing k seen)

end Run

end GatedManager.Manager
