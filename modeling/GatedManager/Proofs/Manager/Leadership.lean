import GatedManager.Proofs.Cache.Progress
import GatedManager.Proofs.Election.Ledger
import GatedManager.Proofs.Election.Record
import GatedManager.Proofs.Manager.Leading
import GatedManager.Proofs.Runs

/-!
# Leadership before the runnables start

A manager with an election first acquires its lease, then waits for the cache, and only then starts
its runnables. From the answer that acquired the lease on nothing renews it before the runnables
have been started, however long the wait takes. So a runnable is started under a live lease when
the wait is short enough for the lease duration, and only then: nothing looks at the lease again.

The API server behaves as towards a single elector: it is honest about stored writes, answers to
them come within a delay, and attempts that were given up may still be stored.
-/

namespace GatedManager.Manager

open Election (Attempt Campaign Config Ledger)

/-- A run, the stored writes of its elector, and when it acquired its lease. -/
structure Leadership where
  run : Run
  ledger : Ledger := {}
  acquired : Option Instant := none

namespace Leadership

inductive Event
  | act (action : Action)
  /-- The server stores the write that waits for its answer. -/
  | store
  /-- The server stores a write that had gone astray. -/
  | storeAstray

def begin (m : Manager) (now : Instant) : Leadership := { run := .begin m now }

/-- The attempt of the run that waits for an answer. -/
def attempt? (l : Leadership) : Option Attempt := l.run.campaign?.bind Campaign.attempt?

/-- Whether the server can let this happen: it gives no dishonest or late answer about a write. -/
def admits (delay : Duration) (l : Leadership) : Action → Bool
  | .answer answer => l.attempt?.any fun attempt =>
      l.ledger.admits delay attempt answer l.run.now
  | _ => true

/-- The ledger when an action has made a run out of the one before. A request is over when it was
answered and when its attempt is no longer open. -/
def ledgerAfter (l : Leadership) (action : Action) (r : Run) : Ledger :=
  match l.attempt?, action, r.campaign?.bind Campaign.attempt? with
  | none, _, _ => l.ledger
  | some attempt, .answer _, _ => l.ledger.leave attempt
  | some attempt, _, none => l.ledger.leave attempt
  | some _, _, some _ => l.ledger

/-- The instant of the answer that acquired the lease. -/
def acquiredAfter (l : Leadership) (action : Action) (r : Run) : Option Instant :=
  match action with
  | .answer _ => if r.isLeading then some r.now else l.acquired
  | _ => l.acquired

def act (delay : Duration) (l : Leadership) (action : Action) : Option Leadership :=
  if l.admits delay action then
    (l.run.step action).map fun r =>
      { run := r, ledger := l.ledgerAfter action r, acquired := l.acquiredAfter action r }
  else none

/-- What follows an event, `none` when the event is not possible. -/
def step (delay : Duration) (l : Leadership) : Event → Option Leadership
  | .act action => l.act delay action
  | .store =>
    l.attempt?.bind fun attempt =>
      (l.ledger.store? attempt l.run.now).map fun ledger => { l with ledger := ledger }
  | .storeAstray =>
    (l.ledger.storeAstray? l.run.now).map fun ledger => { l with ledger := ledger }

/-- The runnable that is started next, when the time for it has come. -/
def next? (l : Leadership) : Option String :=
  match l.run.stage with
  | .starting => l.run.manager.runnables[l.run.running.spawned]?
  | _ => none

/-! ### What each event keeps -/

/-- What is known of a leadership in an election: the last stored write covers the answer that
acquired the lease. -/
structure Sound (config : Config) (delay : Duration) (l : Leadership) : Prop where
  election : l.run.manager.plan.election = some config
  elector : l.run.elector.isSome
  ledger : l.ledger.Sound l.run.now
  covered : l.run.isLeading → ∃ a ≤ l.run.now, l.acquired = some a ∧ l.ledger.Covers delay a

variable {config : Config} {delay : Duration} {l l' : Leadership}

theorem latest_ledgerAfter (l : Leadership) (action : Action) (r : Run) :
    (l.ledgerAfter action r).latest = l.ledger.latest := by
  unfold ledgerAfter
  split <;> rfl

theorem covers_ledgerAfter {a : Instant} (action : Action) (r : Run)
    (h : l.ledger.Covers delay a) : (l.ledgerAfter action r).Covers delay a := by
  obtain ⟨s, hs, hle⟩ := h
  exact ⟨s, (latest_ledgerAfter l action r).trans hs, hle⟩

theorem sound_ledgerAfter {now : Instant} (action : Action) (r : Run)
    (h : l.ledger.Sound now) : (l.ledgerAfter action r).Sound now := by
  unfold ledgerAfter
  split
  · exact h
  · exact h.leave _
  · exact h.leave _
  · exact h

/-- Time passes, and everything stays as it was. -/
theorem Sound.pass {now : Instant} (h : l.Sound config delay)
    (ha : l.act delay (.pass now) = some l') : l'.Sound config delay := by
  obtain ⟨r, hs, rfl⟩ : ∃ r, l.run.step (.pass now) = some r ∧
      ({ run := r, ledger := l.ledgerAfter (.pass now) r,
         acquired := l.acquiredAfter (.pass now) r } : Leadership) = l' := by
    simpa [Leadership.act, admits] using ha
  simp only [Run.step] at hs
  split at hs
  case isFalse => cases hs
  case isTrue later =>
    obtain rfl := Option.some.inj hs
    refine ⟨h.election, h.elector, (sound_ledgerAfter _ _ h.ledger).pass later, ?_⟩
    intro leads
    obtain ⟨a, past, acquired, covers⟩ := h.covered leads
    exact ⟨a, Nat.le_trans past later, acquired, covers_ledgerAfter _ _ covers⟩

/-- The answer that acquires the lease comes within the delay after the write was stored. -/
theorem Sound.answer {answer : Election.Answer} (h : l.Sound config delay)
    (ha : l.act delay (.answer answer) = some l') : l'.Sound config delay := by
  unfold Leadership.act at ha
  split at ha
  case isFalse => cases ha
  case isTrue admitted =>
    obtain ⟨r, hs, rfl⟩ := Option.map_eq_some_iff.1 ha
    have keeps := Run.keeps_of_step hs (by simp)
    refine ⟨keeps.manager ▸ h.election, keeps.elector h.elector,
      keeps.now ▸ sound_ledgerAfter _ _ h.ledger, ?_⟩
    intro leads
    obtain rfl := Run.leading_of_answer hs leads
    obtain ⟨attempt, -, admitted⟩ := Option.any_eq_true _ _ |>.1 admitted
    refine ⟨r.now, Nat.le_refl _, if_pos leads, covers_ledgerAfter _ _ ?_⟩
    rw [keeps.now]
    exact h.ledger.covers admitted

theorem Sound.act {action : Action} (h : l.Sound config delay) (ha : l.act delay action = some l') :
    l'.Sound config delay := by
  by_cases passes : ∃ now, action = .pass now
  · obtain ⟨now, rfl⟩ := passes
    exact h.pass ha
  by_cases answers : ∃ answer, action = .answer answer
  · obtain ⟨answer, rfl⟩ := answers
    exact h.answer ha
  unfold Leadership.act at ha
  split at ha
  case isFalse => cases ha
  case isTrue =>
    obtain ⟨r, hs, rfl⟩ := Option.map_eq_some_iff.1 ha
    have keeps := Run.keeps_of_step hs fun now is => passes ⟨now, is⟩
    refine ⟨keeps.manager ▸ h.election, keeps.elector h.elector,
      keeps.now ▸ sound_ledgerAfter _ _ h.ledger, ?_⟩
    intro leads
    rcases Run.leading_of_step hs leads with before | is
    · obtain ⟨a, past, acquired, covers⟩ := h.covered before
      refine ⟨a, keeps.now ▸ past, ?_, covers_ledgerAfter _ _ covers⟩
      cases action with
      | answer answer => exact absurd ⟨answer, rfl⟩ answers
      | _ => exact acquired
    · exact absurd ⟨_, is⟩ answers

theorem Sound.store {attempt : Attempt} {ledger : Ledger} (h : l.Sound config delay)
    (hs : l.ledger.store? attempt l.run.now = some ledger) :
    Sound config delay { l with ledger := ledger } := by
  refine ⟨h.election, h.elector, Ledger.Sound.store hs, ?_⟩
  intro leads
  obtain ⟨a, past, acquired, -⟩ := h.covered leads
  exact ⟨a, past, acquired, Ledger.covers_of_latest (Ledger.latest_store hs) past⟩

theorem Sound.storeAstray {ledger : Ledger} (h : l.Sound config delay)
    (hs : l.ledger.storeAstray? l.run.now = some ledger) :
    Sound config delay { l with ledger := ledger } := by
  refine ⟨h.election, h.elector, h.ledger.storeAstray hs, ?_⟩
  intro leads
  obtain ⟨a, past, acquired, -⟩ := h.covered leads
  exact ⟨a, past, acquired, Ledger.covers_of_latest (Ledger.latest_storeAstray hs) past⟩

theorem Sound.step {event : Event} (h : l.Sound config delay)
    (hs : l.step delay event = some l') : l'.Sound config delay := by
  cases event with
  | act action => exact h.act hs
  | store =>
      obtain ⟨attempt, -, hs⟩ := Option.bind_eq_some_iff.1 hs
      obtain ⟨ledger, hl, rfl⟩ := Option.map_eq_some_iff.1 hs
      exact h.store hl
  | storeAstray =>
      obtain ⟨ledger, hl, rfl⟩ := Option.map_eq_some_iff.1 hs
      exact h.storeAstray hl

theorem Sound.run {events : List Event} (h : l.Sound config delay)
    (run : runFrom (Leadership.step delay) l events = some l') : l'.Sound config delay :=
  runFrom_invariant (fun _ _ _ h hs => h.step hs) h run

theorem sound_begin {m : Manager} (election : m.plan.election = some config) (now : Instant) :
    (begin m now).Sound config delay := by
  refine ⟨election, ?_, Ledger.Sound.start now, ?_⟩
  · simp [begin, Run.begin, elector?, election]
  · simp [begin, Run.begin, Run.isLeading]

/-! ### Whether the runnables start under a live lease -/

/-- Whether every runnable that is started within `wait` after the lease was acquired is started
under a live lease, in every manager with the election. -/
def StartsLive (config : Config) (delay wait : Duration) : Prop :=
  ∀ (m : Manager) (start : Instant) (events : List Event) (l : Leadership),
    m.plan.election = some config → runFrom (step delay) (begin m start) events = some l →
    ∀ name, l.next? = some name →
    (∀ a, l.acquired = some a → l.run.now ≤ a + wait.nanos) →
    l.ledger.IsLive config.leaseDuration l.run.now

theorem isLeading_of_next? {name : String} (h : l.Sound config delay)
    (next : l.next? = some name) : l.run.isLeading := by
  unfold next? at next
  split at next
  case h_1 hs => simpa [Run.isLeading, hs] using h.elector
  case h_2 => cases next

theorem startsLive_of_lt {wait : Duration}
    (short : delay.nanos + wait.nanos < config.leaseDuration.nanos) :
    StartsLive config delay wait := by
  intro m start events l election run name next within
  have sound := (sound_begin election start).run run
  obtain ⟨a, -, acquired, s, stored, covers⟩ := sound.covered (isLeading_of_next? sound next)
  refine ⟨s, stored, ?_⟩
  calc l.run.now
    _ ≤ a + wait.nanos := within a acquired
    _ ≤ s + delay.nanos + wait.nanos := Nat.add_le_add_right covers _
    _ = s + (delay.nanos + wait.nanos) := Nat.add_assoc ..
    _ < s + config.leaseDuration.nanos := Nat.add_lt_add_left short s

/-- A run that has just begun to campaign finds no lease and creates it, the answer taking all its
time. -/
theorem run_acquires (delay : Duration) {r : Run} {elector : Election.Elector} {clock : Timestamp}
    (valid : clock.IsValid) (fresh : elector.observed = none)
    (campaigns : r.stage = .campaigning (.acquire elector false clock))
    (reaches : Instant.reaches (r.now + delay.nanos) elector.config.leaseDuration) :
    ∃ owner : Election.Elector,
      runFrom (step delay) ⟨r, {}, none⟩
        [.act (.answer (.read (.ok none))), .store, .act (.pass (r.now + delay.nanos)),
          .act (.answer (.written (.ok ())))] =
        some ⟨{ r with
            now := r.now + delay.nanos
            stage := .campaigning ⟨owner, false, .ended .acquired⟩ },
          ⟨none, 0, some r.now⟩, some (r.now + delay.nanos)⟩ := by
  obtain ⟨record, lease, absent⟩ := elector.exists_onAbsent valid
  refine ⟨{ elector with observed := some ⟨record, r.now + delay.nanos⟩ }, ?_⟩
  let creating : Campaign := ⟨elector, false, .acquiring (.answer (.creating record lease))⟩
  have ongoing : r.campaign? = some (.acquire elector false clock) := by
    simp [Run.campaign?, campaigns]
  have creates : step delay ⟨r, {}, none⟩ (.act (.answer (.read (.ok none)))) =
      some ⟨{ r with stage := .campaigning creating }, {}, none⟩ := by
    have answers := Run.answer_eq ongoing rfl (Campaign.answer_absent absent false r.now)
    simp [step, act, admits, attempt?, ongoing, Campaign.attempt?, Campaign.acquire, Ledger.admits,
      Attempt.awaits, Attempt.isWrite, Run.step, answers, Run.withCampaign, campaigns, ledgerAfter,
      acquiredAfter, Run.isLeading, Campaign.outcome?, Ledger.leave, creating]
  have stores : step delay ⟨{ r with stage := .campaigning creating }, {}, none⟩ .store =
      some ⟨{ r with stage := .campaigning creating }, ⟨some r.now, 0, some r.now⟩, none⟩ := rfl
  have waits : step delay
      ⟨{ r with stage := .campaigning creating }, ⟨some r.now, 0, some r.now⟩, none⟩
      (.act (.pass (r.now + delay.nanos))) =
      some ⟨{ r with now := r.now + delay.nanos, stage := .campaigning creating },
        ⟨some r.now, 0, some r.now⟩, none⟩ := by
    simp [step, act, admits, Run.step, ledgerAfter, attempt?, Run.campaign?, Campaign.attempt?,
      acquiredAfter, creating]
  have wins : step delay
      ⟨{ r with now := r.now + delay.nanos, stage := .campaigning creating },
        ⟨some r.now, 0, some r.now⟩, none⟩ (.act (.answer (.written (.ok ())))) =
      some ⟨{ r with
          now := r.now + delay.nanos
          stage := .campaigning
            ⟨{ elector with observed := some ⟨record, r.now + delay.nanos⟩ }, false,
              .ended .acquired⟩ },
        ⟨none, 0, some r.now⟩, some (r.now + delay.nanos)⟩ := by
    have answers := Run.answer_eq
      (r := { r with now := r.now + delay.nanos, stage := .campaigning creating })
      rfl rfl (Campaign.answer_created record lease fresh reaches false)
    simp [step, act, admits, attempt?, Run.campaign?, Campaign.attempt?, Ledger.admits,
      Attempt.awaits, Attempt.isWrite, Run.step, answers, Run.withCampaign, ledgerAfter,
      acquiredAfter, Run.isLeading, Campaign.outcome?, Ledger.leave, creating]
  exact runFrom_step creates (runFrom_step stores (runFrom_step waits (runFrom_step wins
    (runFrom_nil _))))

/-- An action of a run without an open attempt that is no answer concerns the run alone. -/
theorem step_quiet {r r' : Run} {action : Action} {ledger : Ledger} {acquired : Option Instant}
    (h : r.step action = some r') (closed : r.campaign?.bind Campaign.attempt? = none)
    (other : ∀ answer, action ≠ .answer answer) :
    step delay ⟨r, ledger, acquired⟩ (.act action) = some ⟨r', ledger, acquired⟩ := by
  cases action with
  | answer answer => exact absurd rfl (other answer)
  | _ => simp [step, act, admits, h, ledgerAfter, attempt?, closed, acquiredAfter]

/-- A campaign that ended well is followed by the wait for the cache, which goes on as it was. -/
theorem concludes_acquired {r : Run} {c : Campaign} (campaigns : r.stage = .campaigning c)
    (acquires : c.outcome? = some .acquired) :
    ∃ r', r.step .conclude = some r' ∧ r'.stage = .syncing 0 ∧ r'.now = r.now ∧
      r'.manager = r.manager ∧ r'.running = r.running ∧ r'.cache.scheme = r.cache.scheme ∧
      r'.cache.cells = r.cache.cells ∧ r'.cache.phase = r.cache.phase := by
  refine ⟨{ r.setLeader true with elector := some c.elector, stage := .syncing 0 }, ?_, rfl, ?_⟩
  · simp only [Run.step, Run.conclude, campaigns, acquires]
  · simp only [Run.setLeader]
    split <;> exact ⟨rfl, rfl, rfl, rfl, rfl, rfl⟩

/-- An informer that begins and gets its whole list in one empty page is ready. -/
theorem ready_after_list {α : Type} (i : Watch.Informer α) (idle : i.stage = .idle)
    (begun now : Instant) :
    ((i.take .go begun).take (.page ⟨[], none⟩) now).reflector.ready = true := by
  simp [Watch.Informer.take, idle, Watch.Stage.react, Watch.Page.events, Watch.Reflector.run,
    Watch.Reflector.step]

/-- A run that waits for the only informer of its cache goes on when the list is complete, however
late that is. -/
theorem run_syncs (delay : Duration) {r : Run} (ledger : Ledger) (acquired : Option Instant)
    {begun : Instant} {cell : Cache.Cell} (wait : Duration) (syncs : r.stage = .syncing 0)
    (single : r.cache.scheme = ⟨[cell.kind]⟩) (cells : r.cache.cells = [cell])
    (fresh : cell.informer.stage = .idle) (phase : r.cache.phase = .running begun) :
    ∃ events r', runFrom (step delay) ⟨r, ledger, acquired⟩ events = some ⟨r', ledger, acquired⟩ ∧
      r'.stage = .starting ∧ r'.now = r.now + wait.nanos ∧ r'.manager = r.manager ∧
      r'.running = r.running := by
  let listing : Run := { r with cache := r.cache.take 0 .go r.now }
  let late : Run := { listing with now := r.now + wait.nanos }
  let listed : Run := { late with cache := late.cache.take 0 (.page ⟨[], none⟩) late.now }
  have begins : r.step (.inform 0 .go) = some listing := rfl
  have passes : listing.step (.pass (r.now + wait.nanos)) = some late :=
    if_pos (Nat.le_add_right r.now wait.nanos)
  have lists : late.step (.inform 0 (.page ⟨[], none⟩)) = some listed := rfl
  let cell' : Cache.Cell :=
    { cell with informer := (cell.informer.take .go r.now).take (.page ⟨[], none⟩) late.now }
  have ready : cell'.informer.reflector.ready = true := ready_after_list _ fresh _ _
  have cells' : listed.cache.cells = [cell'] := by
    simp [listed, late, listing, Cache.take, phase, cells, cell']
  have kept : listed.cache.kept = [cell'] := by
    have single' : listed.cache.scheme = ⟨[cell.kind]⟩ := by simp [listed, late, listing, single]
    rw [Cache.kept_of_single single' (by simp [cells', cell']), cells']
  have stage : listed.stage = .syncing 0 := syncs
  have finds : listed.step .look = some { listed with stage := .syncing 1 } := by
    simp only [Run.step, Run.look, stage, kept, List.getElem?_cons_zero, ready, if_true]
  have ends : Run.step { listed with stage := .syncing 1 } .look =
      some { listed with stage := .starting } := by
    simp only [Run.step, Run.look, kept, List.getElem?_cons_succ, List.getElem?_nil]
  have closed : ∀ {r' : Run} {n : Nat}, r'.stage = .syncing n →
      r'.campaign?.bind Campaign.attempt? = none := by
    intro r' n hs
    simp [Run.campaign?, hs]
  have s₁ : step delay ⟨r, ledger, acquired⟩ (.act (.inform 0 .go)) =
      some ⟨listing, ledger, acquired⟩ := step_quiet begins (closed syncs) (by simp)
  have s₂ : step delay ⟨listing, ledger, acquired⟩ (.act (.pass (r.now + wait.nanos))) =
      some ⟨late, ledger, acquired⟩ := step_quiet passes (closed syncs) (by simp)
  have s₃ : step delay ⟨late, ledger, acquired⟩ (.act (.inform 0 (.page ⟨[], none⟩))) =
      some ⟨listed, ledger, acquired⟩ := step_quiet lists (closed syncs) (by simp)
  have s₄ : step delay ⟨listed, ledger, acquired⟩ (.act .look) =
      some ⟨{ listed with stage := .syncing 1 }, ledger, acquired⟩ :=
    step_quiet finds (closed stage) (by simp)
  have s₅ : step delay ⟨{ listed with stage := .syncing 1 }, ledger, acquired⟩ (.act .look) =
      some ⟨{ listed with stage := .starting }, ledger, acquired⟩ :=
    step_quiet ends (closed rfl) (by simp)
  have run := runFrom_step s₁ (runFrom_step s₂ (runFrom_step s₃ (runFrom_step s₄
    (runFrom_step s₅ (runFrom_nil _)))))
  exact ⟨_, { listed with stage := .starting }, run, rfl, rfl, rfl, rfl⟩

/-- A replica with one controller that caches the machines of one namespace. -/
def replica (config : Config) : Manager where
  plan :=
    { scheme := ⟨[.machine]⟩
      cache := { namespaces := [("default", {})], syncPeriod := .ofSeconds 600 }
      election := some config
      health := none
      metrics := none }
  identity := "replica"
  runnables := ["controller"]

/-- The replica acquires its lease with its first attempt, and the list of machines comes late. -/
theorem exists_late_start (wait : Duration) {start : Instant}
    (reaches : Instant.reaches (start + delay.nanos) config.leaseDuration) :
    ∃ events l, runFrom (step delay) (begin (replica config) start) events = some l ∧
      l.next? = some "controller" ∧ l.acquired = some (start + delay.nanos) ∧
      l.run.now = start + delay.nanos + wait.nanos ∧ l.ledger.latest = some start := by
  let elector : Election.Elector := { identity := "replica", config := config }
  let cell : Cache.Cell := { kind := .machine, namespaceName := "default", selection := {} }
  obtain ⟨campaigning, leads, campaigns, now_eq, single, cells, phase, manager, running⟩ :
      ∃ r, step delay (begin (replica config) start) (.act (.lead ⟨0, 0⟩)) = some ⟨r, {}, none⟩ ∧
        r.stage = .campaigning (.acquire elector false ⟨0, 0⟩) ∧ r.now = start ∧
        r.cache.scheme = ⟨[.machine]⟩ ∧ r.cache.cells = [cell] ∧
        r.cache.phase = .running start ∧ r.manager = replica config ∧ r.running = {} :=
    ⟨_, rfl, rfl, rfl, rfl, rfl, rfl, rfl, rfl⟩
  obtain ⟨owner, acquires⟩ := run_acquires delay
    ⟨by decide, by decide, by decide⟩ rfl campaigns (now_eq ▸ reaches)
  rw [now_eq] at acquires
  obtain ⟨synced, concludes, syncs, now_eq', manager', running', single', cells', phase'⟩ :=
    concludes_acquired (r := { campaigning with
      now := start + delay.nanos
      stage := .campaigning ⟨owner, false, .ended .acquired⟩ }) rfl rfl
  have concluded : step delay ⟨_, ⟨none, 0, some start⟩, some (start + delay.nanos)⟩
      (.act .conclude) = some ⟨synced, ⟨none, 0, some start⟩, some (start + delay.nanos)⟩ :=
    step_quiet concludes rfl (by simp)
  obtain ⟨events, r, syncing, starting, now_eq'', manager'', running''⟩ :=
    run_syncs delay ⟨none, 0, some start⟩ (some (start + delay.nanos)) wait syncs
      (single'.trans single) (cells'.trans cells) rfl (phase'.trans phase)
  have run := runFrom_step leads ((runFrom_append _ _ _).trans
    ((congrArg (Option.bind · _) acquires).trans (runFrom_step concluded syncing)))
  refine ⟨_, _, run, ?_, rfl, ?_, rfl⟩
  · simp [next?, starting, manager'', manager', manager, running'', running', running, replica]
  · rw [now_eq'', now_eq']

theorem not_startsLive_of_le {wait : Duration}
    (modest : Instant.onClock (2 * delay.nanos + wait.nanos))
    (short : config.leaseDuration.nanos ≤ delay.nanos + wait.nanos) :
    ¬StartsLive config delay wait := by
  intro live
  have reaches : Instant.reaches ((0 : Nat) + delay.nanos) config.leaseDuration :=
    Instant.onClock_mono (by omega) modest
  obtain ⟨events, l, run, next, acquired, now_eq, latest⟩ := exists_late_start wait reaches
  have within : ∀ a, l.acquired = some a → l.run.now ≤ a + wait.nanos := by
    intro a ha
    obtain rfl := Option.some.inj (acquired.symm.trans ha)
    exact Nat.le_of_eq now_eq
  obtain ⟨s, stored, alive⟩ := live (replica config) 0 events l rfl run _ next within
  obtain rfl := Option.some.inj (latest.symm.trans stored)
  rw [now_eq] at alive
  refine absurd alive (Nat.not_lt.2 ?_)
  calc 0 + config.leaseDuration.nanos
    _ ≤ 0 + (delay.nanos + wait.nanos) := Nat.add_le_add_left short 0
    _ = 0 + delay.nanos + wait.nanos := (Nat.add_assoc ..).symm

/-- Every runnable that is started within `wait` after the lease was acquired is started under a
live lease when the lease lasts longer than the delay of an answer and this wait together. When it
does not, a runnable can be started under a lease that has run out. -/
theorem start_under_live_lease (config : Config) (delay wait : Duration) :
    (delay.nanos + wait.nanos < config.leaseDuration.nanos → StartsLive config delay wait) ∧
    (Instant.onClock (2 * delay.nanos + wait.nanos) →
      config.leaseDuration.nanos ≤ delay.nanos + wait.nanos → ¬StartsLive config delay wait) :=
  ⟨startsLive_of_lt, not_startsLive_of_le⟩

/-- A configuration with the durations that are used when none are given. -/
def standard : Config where
  enabled := true
  leaseDuration := .ofSeconds 15
  renewDeadline := .ofSeconds 10
  retryPeriod := .ofSeconds 2
  resourceName := "manager-leader"
  resourceNamespace := "default"

/-- A list of machines that takes twenty seconds lets the lease run out before the start, even when
every other answer comes at once. -/
theorem standard_starts_late :
    standard.validate = .ok () ∧ ¬StartsLive standard ⟨0⟩ (.ofSeconds 20) :=
  ⟨rfl, not_startsLive_of_le (by decide) (by decide)⟩

end Leadership

end GatedManager.Manager
