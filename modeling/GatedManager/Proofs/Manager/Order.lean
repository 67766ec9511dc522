import GatedManager.Proofs.Manager.Stations

/-!
# The order of a start

A manager starts its runnables one after the other, in the order in which they were added. Before
the first of them it has bound its listeners, acquired its lease and completed the list of every
store that its cache keeps. It asks for the lease only after its listeners are bound.

The server of the lease is honest: it answers that a write was stored only when it has stored it.
Every other answer may come at any time and say anything, and so may the inputs of the cache.
-/

namespace GatedManager.Manager

open Api (AnyObject Lease)
open Election (Attempt Campaign holder?)
open Watch (Collection)

/-- A run, what the server has stored, and what has been done on the way to the runnables. -/
structure Ascent where
  run : Run
  /-- Whether the write that waits for its answer was stored. -/
  pending : Bool := false
  /-- The leases that this replica wrote and the server stored, the latest first. -/
  stored : List Lease := []
  /-- Whether the lease was acquired. -/
  acquired : Bool := false
  /-- The collections whose list was completed. -/
  listed : List Collection := []
  /-- The runnables that were started, the first one first. -/
  started : List String := []

namespace Ascent

inductive Event
  | act (action : Action)
  /-- The server stores the write that waits for its answer. -/
  | store

def begin (m : Manager) (now : Instant) : Ascent := { run := .begin m now }

/-- The attempt that waits for an answer. -/
def attempt? (s : Ascent) : Option Attempt := s.run.campaign?.bind Campaign.attempt?

/-- Whether the server can let this happen: an answer is one to the request that waits for it, and
a write that is said to be stored was stored. -/
def admits (s : Ascent) : Action → Bool
  | .answer answer => s.attempt?.any fun attempt => attempt.awaits answer &&
      match answer with
      | .written (.ok ()) => s.pending
      | _ => true
  | _ => true

/-- Whether the write of the open attempt is known to be stored after an action. -/
def pendingAfter (s : Ascent) (action : Action) (r : Run) : Bool :=
  match action with
  | .answer _ => false
  | _ => s.pending && (r.campaign?.bind Campaign.attempt?).isSome

def acquiredAfter (s : Ascent) (action : Action) : Bool :=
  match action, s.run.stage with
  | .conclude, .campaigning c => s.acquired || c.outcome? = some .acquired
  | _, _ => s.acquired

def listedAfter (s : Ascent) : Action → List Collection
  | .inform cell input => (s.run.cache.completed? cell input).toList ++ s.listed
  | _ => s.listed

def startedAfter (s : Ascent) : Action → List String
  | .start => s.started ++ s.run.next?.toList
  | _ => s.started

/-- The ascent when an action has made a run out of the one before. -/
def after (s : Ascent) (action : Action) (r : Run) : Ascent where
  run := r
  pending := s.pendingAfter action r
  stored := s.stored
  acquired := s.acquiredAfter action
  listed := s.listedAfter action
  started := s.startedAfter action

/-- What follows an event, `none` when it is not possible. -/
def step (s : Ascent) : Event → Option Ascent
  | .act action => if s.admits action then (s.run.step action).map (s.after action) else none
  | .store =>
    if s.pending then none
    else (s.attempt?.bind Attempt.lease?).map fun lease =>
      { s with pending := true, stored := lease :: s.stored }

/-- Whether the runnables are being started or one of them has been. -/
def IsUp (s : Ascent) : Prop := s.run.stage = .starting ∨ s.started ≠ []

/-- Whether the server has stored a lease that names this replica. -/
def HasStored (s : Ascent) (identity : String) : Prop :=
  ∃ lease ∈ s.stored, holder? lease = some identity

/-- What holds in every state of a start. -/
structure InOrder (m : Manager) (s : Ascent) : Prop where
  /-- The runnables are started in their order, each of them once. -/
  started : s.started <+: m.runnables
  /-- None is left out when one was started and the start is over. -/
  whole : s.started ≠ [] → s.run.stage ≠ .starting → s.started = m.runnables
  listening : s.IsUp → s.run.bound = m.plan.servers
  elected : s.IsUp → m.plan.election.isSome → s.acquired ∧ s.HasStored m.identity
  /-- Of kinds with the same key the cache keeps the last one. -/
  synced : s.IsUp → ∀ kind, m.plan.scheme.keptUnder? kind.key = some kind →
    ∀ place ∈ m.plan.cache.namespaces, ⟨kind, some place.1, place.2⟩ ∈ s.listed
  /-- Every store is waited for when the keys tell the kinds apart. -/
  syncedAll : s.IsUp → m.plan.scheme.IsUnambiguous → ∀ kind ∈ m.plan.scheme.kinds,
    ∀ place ∈ m.plan.cache.namespaces, ⟨kind, some place.1, place.2⟩ ∈ s.listed
  /-- No lease request comes before the listeners are bound. -/
  asking : s.attempt?.isSome → s.run.bound = m.plan.servers

/-! ### What each event keeps -/

/-- What is known of an ascent. -/
structure Sound (m : Manager) (s : Ascent) : Prop where
  manager : s.run.manager = m
  orderly : s.run.Orderly
  listens : s.run.Listens
  stands : s.run.Stands
  syncs : s.run.Syncs
  started : s.started = m.runnables.take s.run.running.spawned
  listed : ∀ cell ∈ s.run.cache.cells, cell.informer.reflector.ready = true →
    cell.collection ∈ s.listed
  pending : s.pending → s.HasStored m.identity
  won : ∀ c, s.run.stage = .campaigning c → c.outcome? = some .acquired →
    s.HasStored m.identity
  led : m.plan.election.isSome → s.run.Reaches 2 → s.acquired ∧ s.HasStored m.identity

variable {m : Manager} {s s' : Ascent} {event : Event} {action : Action} {r : Run}

theorem sound_begin (m : Manager) (now : Instant) : (begin m now).Sound m where
  manager := rfl
  orderly := Run.orderly_begin m now
  listens := Run.listens_begin m now
  stands := Run.stands_begin m now
  syncs := Run.syncs_begin m now
  started := rfl
  listed := by
    intro cell is_cell ready
    exact nomatch ready.symm.trans (Cache.ready_cellsOf is_cell)
  pending := by rintro ⟨⟩
  won := by rintro c ⟨⟩
  led := by
    rintro - (⟨above, -⟩ | some_started)
    · exact absurd above (by simp [begin, Run.begin, Stage.rank])
    · exact absurd rfl some_started

theorem started_after (h : s.Sound m) (hs : s.run.step action = some r) :
    s.startedAfter action = m.runnables.take r.running.spawned := by
  by_cases starts : action = .start
  · subst starts
    rw [startedAfter, h.started]
    cases Run.proceeds_of_step hs with
    | @started name starting next =>
        rw [Run.next?_eq_some_iff.2 ⟨starting, next⟩]
        rw [h.manager] at next
        simp [TaskGroup.spawn, List.take_add_one, next]
    | held starting all => simp [Run.next?, starting, all]
  · have same : s.startedAfter action = s.started := by
      cases action with
      | start => exact absurd rfl starts
      | _ => rfl
    rw [same, h.started, (Run.spawned_of_step hs).resolve_right fun spawns => starts spawns.1]

/-- Every store that is ready has had its list completed. -/
theorem listed_after (h : s.Sound m) (hs : s.run.step action = some r) :
    ∀ cell ∈ r.cache.cells, cell.informer.reflector.ready = true →
      cell.collection ∈ s.listedAfter action := by
  intro cell is_cell ready
  have kept : ∀ collection ∈ s.listed, collection ∈ s.listedAfter action := by
    intro collection before
    cases action with
    | inform => exact List.mem_append_right _ before
    | _ => exact before
  rcases Run.cells_of_step hs with same | ⟨n, input, rfl, takes⟩
  · exact kept _ (h.listed cell (same ▸ is_cell) ready)
  · rw [takes] at is_cell
    rcases Cache.ready_of_take is_cell ready with ⟨before, was_cell, same, was_ready⟩ | completes
    · exact kept _ (same ▸ h.listed before was_cell was_ready)
    · simp [listedAfter, completes]

/-- The lease was stored when a campaign ends well. -/
theorem won_after {c : Campaign} (h : s.Sound m) (admitted : s.admits action)
    (hs : s.run.step action = some r) (campaigning : r.stage = .campaigning c)
    (outcome : c.outcome? = some .acquired) : s.HasStored m.identity := by
  have leads : r.isLeading := by simp [Run.isLeading, campaigning, outcome]
  rcases Run.leading_of_step hs leads with before | rfl
  -- a run that led at a later stage has no campaign to acquire the lease any more
  · have early : s.run.stage.rank ≤ 1 := by
      simpa [campaigning, Stage.rank] using Run.rank_le_of_step hs
    unfold Run.isLeading at before
    split at before
    case h_1 c stage => exact h.won c stage (by simpa using before)
    case h_2 stage => simp [stage, Stage.rank] at early
    case h_3 stage => simp [stage, Stage.rank] at early
    case h_4 => cases before
  · obtain ⟨attempt, -, honest⟩ := Option.any_eq_true _ _ |>.1 admitted
    exact h.pending (Bool.and_eq_true_iff.1 honest).2

/-- A run in an election comes to wait for its cache when the lease was acquired. -/
theorem led_after (h : s.Sound m) (election : m.plan.election.isSome)
    (hs : s.run.step action = some r) (reaches : r.Reaches 2) :
    s.acquiredAfter action ∧ s.HasStored m.identity := by
  rcases Run.reaches_of_step (by decide) hs reaches with before | ⟨before, above, below⟩
  · obtain ⟨acquired, stored⟩ := h.led election before
    refine ⟨?_, stored⟩
    unfold acquiredAfter
    split <;> simp [acquired]
  · rcases Run.leads_of_step hs before above below with alone | ⟨c, stage, outcome, rfl⟩
    · have stands := h.stands.stands (h.manager ▸ election)
      simp [alone] at stands
    · exact ⟨by simp [acquiredAfter, stage, outcome], h.won c stage outcome⟩

theorem Sound.act (h : s.Sound m) (admitted : s.admits action)
    (hs : s.run.step action = some r) : (s.after action r).Sound m where
  manager := (Run.manager_of_step hs).trans h.manager
  orderly := h.orderly.step hs
  listens := h.listens.step h.orderly hs
  stands := h.stands.step hs
  syncs := h.syncs.step hs
  started := started_after h hs
  listed := listed_after h hs
  pending := by
    intro pending
    refine h.pending ?_
    simp only [after, pendingAfter] at pending
    split at pending
    · cases pending
    · exact (Bool.and_eq_true_iff.1 pending).1
  won := fun c campaigning outcome =>
    (won_after h admitted hs campaigning outcome : s.HasStored m.identity)
  led := fun election reaches => led_after h election hs reaches

theorem HasStored.cons {identity : String} (h : s.HasStored identity) (lease : Lease) :
    HasStored { s with pending := true, stored := lease :: s.stored } identity := by
  obtain ⟨before, was_stored, names⟩ := h
  exact ⟨before, List.mem_cons_of_mem _ was_stored, names⟩

theorem Sound.store {lease : Lease} (h : s.Sound m)
    (sends : s.attempt?.bind Attempt.lease? = some lease) :
    Sound m { s with pending := true, stored := lease :: s.stored } where
  manager := h.manager
  orderly := h.orderly
  listens := h.listens
  stands := h.stands
  syncs := h.syncs
  started := h.started
  listed := h.listed
  pending := by
    obtain ⟨attempt, is_attempt, is_lease⟩ := Option.bind_eq_some_iff.1 sends
    obtain ⟨c, ongoing, is_attempt⟩ := Option.bind_eq_some_iff.1 is_attempt
    have names := (h.stands.campaign c ongoing).names attempt is_attempt lease is_lease
    exact fun _ => ⟨lease, List.mem_cons_self, h.manager ▸ names⟩
  won := fun c campaigning outcome => (h.won c campaigning outcome).cons lease
  led := fun election reaches =>
    ⟨(h.led election reaches).1, (h.led election reaches).2.cons lease⟩

theorem Sound.step (h : s.Sound m) (hs : s.step event = some s') : s'.Sound m := by
  cases event with
  | act action =>
      simp only [Ascent.step] at hs
      split at hs
      case isTrue admitted =>
        obtain ⟨r, next, rfl⟩ := Option.map_eq_some_iff.1 hs
        exact h.act admitted next
      case isFalse => cases hs
  | store =>
      simp only [Ascent.step] at hs
      split at hs
      case isTrue => cases hs
      case isFalse =>
        obtain ⟨lease, sends, rfl⟩ := Option.map_eq_some_iff.1 hs
        exact h.store sends

theorem Sound.run {events : List Event} (h : s.Sound m)
    (run : runFrom Ascent.step s events = some s') : s'.Sound m :=
  runFrom_invariant (fun _ _ _ h hs => h.step hs) h run

/-! ### The order of a start -/

theorem Sound.reaches (h : s.Sound m) (up : s.IsUp) : s.run.Reaches 3 := by
  rcases up with starting | some_started
  · exact .inl (starting ▸ ⟨Nat.le_refl 3, by decide⟩)
  · refine .inr fun none_started => some_started ?_
    rw [h.started, none_started, List.take_zero]

theorem Sound.bound (h : s.Sound m) (begun : 0 < s.run.stage.rank)
    (on_way : s.run.stage.rank < 7 ∨ s.run.running.spawned ≠ 0) :
    s.run.bound = m.plan.servers := h.manager ▸ h.listens.bound begun on_way

theorem Sound.listening (h : s.Sound m) (up : s.IsUp) : s.run.bound = m.plan.servers := by
  rcases h.reaches up with ⟨above, below⟩ | some_started
  · exact h.bound (Nat.lt_of_lt_of_le (by decide) above) (.inl (Nat.lt_trans below (by decide)))
  · refine h.bound (Nat.pos_of_ne_zero fun first => some_started ?_) (.inr some_started)
    rw [h.orderly.unstarted (Nat.lt_of_le_of_lt (Nat.le_of_eq first) (by decide))]

theorem Sound.elected (h : s.Sound m) (up : s.IsUp) (election : m.plan.election.isSome) :
    s.acquired ∧ s.HasStored m.identity := by
  refine h.led election ((h.reaches up).imp_left ?_)
  exact fun ⟨above, below⟩ => ⟨Nat.le_of_succ_le above, below⟩

theorem Sound.synced (h : s.Sound m) (up : s.IsUp) {kind : ResourceKind}
    (kept : m.plan.scheme.keptUnder? kind.key = some kind) {place : String × Watch.Selection}
    (configured : place ∈ m.plan.cache.namespaces) :
    ⟨kind, some place.1, place.2⟩ ∈ s.listed := by
  have registered := (Scheme.of_keptUnder? kept).1
  have cached : ⟨kind, some place.1, place.2⟩ ∈ s.run.cache.collections := by
    rw [h.syncs.collections, h.manager]
    exact Cache.mem_collections_cellsOf.2 ⟨kind, registered, place, configured, rfl⟩
  obtain ⟨cell, is_cell, is_of⟩ := List.mem_map.1 cached
  obtain rfl : cell.kind = kind := congrArg Collection.kind is_of
  have is_kept : cell ∈ s.run.cache.kept := by
    refine Cache.mem_kept.2 ⟨is_cell, ?_⟩
    rw [h.syncs.scheme, h.manager, kept]
  obtain ⟨k, lt, is_kth⟩ := List.mem_iff_getElem.1 is_kept
  have ready := h.syncs.synced (h.reaches up) k lt
  rw [← is_of]
  refine h.listed cell is_cell ?_
  simpa [Cache.isReady, List.getElem?_eq_getElem lt, is_kth] using ready

theorem Sound.asking (h : s.Sound m) (asks : s.attempt?.isSome) :
    s.run.bound = m.plan.servers := by
  obtain ⟨attempt, is_attempt⟩ := Option.isSome_iff_exists.1 asks
  obtain ⟨c, ongoing, -⟩ := Option.bind_eq_some_iff.1 is_attempt
  obtain ⟨begun, below⟩ := Run.rank_of_campaign? ongoing
  exact h.bound begun (.inl (Nat.lt_trans below (by decide)))

theorem Sound.whole (h : s.Sound m) (some_started : s.started ≠ [])
    (past : s.run.stage ≠ .starting) : s.started = m.runnables := by
  have spawned := (h.orderly.whole past).resolve_left fun none_started =>
    some_started (by rw [h.started, none_started, List.take_zero])
  rw [h.started, spawned, h.manager, List.take_length]

/-- Every state of a start is in order, whatever happens around it. -/
theorem start_order (m : Manager) (now : Instant) (events : List Event) (s : Ascent)
    (run : runFrom step (begin m now) events = some s) : s.InOrder m := by
  have sound := (sound_begin m now).run run
  refine ⟨?_, sound.whole, sound.listening, sound.elected, ?_, ?_, sound.asking⟩
  · exact sound.started ▸ List.take_prefix ..
  · intro up kind kept place configured
    exact sound.synced up kept configured
  · intro up unambiguous kind registered place configured
    exact sound.synced up (unambiguous.keptUnder? registered) configured

/-- A replica with both servers and two controllers that caches the machines of one namespace. -/
def served : Manager where
  plan :=
    { scheme := ⟨[.machine]⟩
      cache := { namespaces := [("default", {})], syncPeriod := .ofSeconds 600 }
      election := some {
        enabled := true
        resourceName := "manager-leader"
        resourceNamespace := "default" }
      health := some ⟨.v4 ⟨[10, 0, 0, 1], rfl⟩, 8081⟩
      metrics := some ⟨.v4 ⟨[10, 0, 0, 1], rfl⟩, 8080⟩ }
  identity := "replica"
  runnables := ["first", "second"]

/-- The listeners are bound, the lease is created, the machines are listed, and both controllers
are started. -/
def ascent : List Event :=
  [.act (.bind none), .act (.bind none), .act (.lead ⟨0, 0⟩),
    .act (.answer (.read (.ok none))), .store, .act (.answer (.written (.ok ()))),
    .act .conclude, .act (.inform 0 .go), .act (.inform 0 (.page ⟨[], none⟩)),
    .act .look, .act .look, .act .start, .act .start, .act .start]

theorem start_order_served :
    ∃ s, runFrom step (begin served 0) ascent = some s ∧ s.started = ["first", "second"] ∧
      s.InOrder served := by
  obtain ⟨s, run, started⟩ := Option.map_eq_some_iff.1
    (by decide +kernel : (runFrom step (begin served 0) ascent).map Ascent.started =
      some ["first", "second"])
  exact ⟨s, run, started, start_order served 0 ascent s run⟩

/-- A replica without servers and without an election whose scheme has two kinds with one key. -/
def overlooking : Manager where
  plan :=
    { scheme := .ambiguous
      cache := { namespaces := [("default", {})], syncPeriod := .ofSeconds 600 }
      election := none
      health := none
      metrics := none }
  identity := "replica"
  runnables := ["first"]

/-- The objects of the second kind are listed, and the runnable is started. -/
def shortAscent : List Event :=
  [.act (.lead ⟨0, 0⟩), .act (.inform 1 .go), .act (.inform 1 (.page ⟨[], none⟩)), .act .look,
    .act .look, .act .start]

/-- A runnable can be started before a store of the first of two kinds with one key is ready. -/
theorem overlooked_store_unlisted :
    ∃ s, runFrom step (begin overlooking 0) shortAscent = some s ∧ s.started = ["first"] ∧
      ∃ kind ∈ overlooking.plan.scheme.kinds, ∃ place ∈ overlooking.plan.cache.namespaces,
        ⟨kind, some place.1, place.2⟩ ∉ s.listed := by
  obtain ⟨s, run, shown⟩ := Option.map_eq_some_iff.1
    (by decide +kernel : (runFrom step (begin overlooking 0) shortAscent).map (fun s =>
      (s.started, s.listed)) = some (["first"], [⟨⟨"", "g", "v/A", "vas"⟩, some "default", {}⟩]))
  obtain ⟨started, listed⟩ := Prod.mk.inj shown
  refine ⟨s, run, started, ⟨"g", "v", "A", "as"⟩, by decide, ("default", {}), by decide, ?_⟩
  rw [listed]
  decide

end Ascent

end GatedManager.Manager
