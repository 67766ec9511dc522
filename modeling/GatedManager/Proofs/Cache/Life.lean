import GatedManager.Proofs.Cache.Progress
import GatedManager.Proofs.Runs
import GatedManager.Proofs.Time.Timer

/-!
# Lives of caches

The life of a cache goes from the start of its informers to their end. In between each informer
gets whatever the API sends, in whatever order, and the cache ticks. The clock does not run past a
tick that is still to come. An object without a name ends the informers, and so does a first tick
that lies beyond the clock; the readers go on after that.

`Advances` lists what each event does, with everything that it needs. Facts about lives are proved
from this list.
-/

namespace GatedManager.Cache

open Api (AnyObject)
open Watch (Input)

/-- What an informer gets from the API. -/
inductive Delivery
  /-- It may ask for the list. -/
  | go
  | page (items : List Json) (next : Option String)
  | refused
  | opened
  | notice (type : String) (object : Json)
  | closed

/-- The input that a delivery is. -/
def Delivery.input : Delivery → Except Watch.Crash (Input AnyObject)
  | go => .ok .go
  | page items next => wire.page items next
  | refused => .ok .refused
  | opened => .ok .opened
  | notice type object => (wire.notice type object).map .notice
  | closed => .ok (.notice .closed)

structure Life where
  cache : Cache
  now : Instant
  /-- The end of the current sync period. -/
  deadline : Instant := 0

/-- What is built, and of what options. -/
theorem of_build {scheme : Scheme} {options : Options} {c : Cache}
    (built : build scheme options = .ok c) :
    options.namespaces ≠ [] ∧ options.syncPeriod.nanos ≠ 0 ∧
      c = { scheme := scheme, options := options, cells := cellsOf scheme options } := by
  unfold build at built
  split at built
  case h_1 => cases built
  case h_2 valid =>
    refine ⟨?_, ?_, (Except.ok.inj built).symm⟩
    · rintro none
      simp [Options.validate, none] at valid
    · intro zero
      unfold Options.validate at valid
      split at valid
      · cases valid
      split at valid <;> cases valid

namespace Life

inductive Event
  /-- The informers start to run. -/
  | start
  /-- Time passes. -/
  | pass (now : Instant)
  /-- The informer of a cell gets something. -/
  | deliver (cell : Nat) (delivery : Delivery)
  | tick
  /-- The informers are told to stop. -/
  | stop

/-- A life begins with a cache that has not been started. -/
def begin (cache : Cache) (now : Instant) : Life := { cache := cache, now := now }

def isRunning (l : Life) : Bool :=
  match l.cache.phase with
  | .running _ => true
  | _ => false

def period (l : Life) : Duration := l.cache.options.syncPeriod

/-- When the current sync period ends, as far as the clock goes. -/
def nextDeadline (l : Life) : Instant :=
  (Instant.add? l.deadline l.period).getD (l.now + Instant.farFuture.nanos)

def start (l : Life) : Option Life :=
  if l.cache.phase = .idle then
    match Instant.add? l.now l.period with
    | none => some { l with cache := l.cache.stop }
    | some deadline => some { l with cache := l.cache.start l.now, deadline := deadline }
  else none

def pass (l : Life) (now : Instant) : Option Life :=
  if l.now ≤ now ∧ Instant.onClock now ∧
      (l.isRunning → now ≤ Instant.roundUpMillis l.deadline) then
    some { l with now := now }
  else none

def deliver (l : Life) (cell : Nat) (delivery : Delivery) : Option Life :=
  if l.isRunning ∧ cell < l.cache.cells.length then
    match delivery.input with
    | .error _ => some { l with cache := l.cache.stop }
    | .ok input => some { l with cache := l.cache.take cell input l.now }
  else none

def tick (l : Life) : Option Life :=
  if l.isRunning ∧ Instant.roundUpMillis l.deadline ≤ l.now then
    some { l with cache := l.cache.tick, deadline := l.nextDeadline }
  else none

/-- The life after an event, `none` when the event is not possible. -/
def step (l : Life) : Event → Option Life
  | .start => l.start
  | .pass now => l.pass now
  | .deliver cell delivery => l.deliver cell delivery
  | .tick => l.tick
  | .stop => some { l with cache := l.cache.stop }

/-- What each event does. -/
inductive Advances (l : Life) : Event → Life → Prop
  | start (idle : l.cache.phase = .idle) (reaches : Instant.reaches l.now l.period) :
      Advances l .start
        { l with cache := l.cache.start l.now, deadline := l.now + l.period.nanos }
  /-- The first tick lies beyond the clock. -/
  | overflow (idle : l.cache.phase = .idle) (beyond : ¬Instant.reaches l.now l.period) :
      Advances l .start { l with cache := l.cache.stop }
  | pass {now : Instant} (later : l.now ≤ now) (shown : Instant.onClock now)
      (before : l.isRunning → now ≤ Instant.roundUpMillis l.deadline) :
      Advances l (.pass now) { l with now := now }
  | take {cell : Nat} {delivery : Delivery} {input : Input AnyObject} (running : l.isRunning)
      (known : cell < l.cache.cells.length) (is_input : delivery.input = .ok input) :
      Advances l (.deliver cell delivery) { l with cache := l.cache.take cell input l.now }
  /-- An object without a name has come. -/
  | crash {cell : Nat} {delivery : Delivery} {crash : Watch.Crash} (running : l.isRunning)
      (crashes : delivery.input = .error crash) :
      Advances l (.deliver cell delivery) { l with cache := l.cache.stop }
  | tick (running : l.isRunning) (due : Instant.roundUpMillis l.deadline ≤ l.now) :
      Advances l .tick { l with cache := l.cache.tick, deadline := l.nextDeadline }
  | stop : Advances l .stop { l with cache := l.cache.stop }

variable {l l' : Life} {event : Event}

theorem advances_of_step (h : l.step event = some l') : Advances l event l' := by
  cases event with
  | start =>
      simp only [step, start] at h
      split at h
      case isFalse => cases h
      case isTrue idle =>
        split at h
        case h_1 beyond =>
          cases h
          refine .overflow idle fun reaches => ?_
          rw [Instant.add?_eq_some_iff.2 ⟨reaches, rfl⟩] at beyond
          cases beyond
        case h_2 deadline fits =>
          cases h
          obtain ⟨reaches, rfl⟩ := Instant.add?_eq_some_iff.1 fits
          exact .start idle reaches
  | pass now =>
      simp only [step, pass] at h
      split at h
      case isFalse => cases h
      case isTrue possible =>
        cases h
        exact .pass possible.1 possible.2.1 possible.2.2
  | deliver cell delivery =>
      simp only [step, deliver] at h
      split at h
      case isFalse => cases h
      case isTrue possible =>
        split at h
        case h_1 crash crashes =>
          cases h
          exact .crash possible.1 crashes
        case h_2 input is_input =>
          cases h
          exact .take possible.1 possible.2 is_input
  | tick =>
      simp only [step, tick] at h
      split at h
      case isFalse => cases h
      case isTrue possible =>
        cases h
        exact .tick possible.1 possible.2
  | stop =>
      cases h
      exact .stop

/-- No event changes what a cache was built for. -/
theorem Advances.frame (h : Advances l event l') :
    l'.cache.scheme = l.cache.scheme ∧ l'.cache.options = l.cache.options ∧
      l'.cache.collections = l.cache.collections := by
  cases h with
  | start => exact ⟨scheme_start, options_start, congrArg (List.map _) cells_start⟩
  | take => exact ⟨scheme_take, options_take, collections_take⟩
  | _ => exact ⟨rfl, rfl, rfl⟩

/-- Only what an informer takes changes the cells. -/
theorem Advances.cells (h : Advances l event l') :
    l'.cache.cells = l.cache.cells ∨ ∃ cell delivery input, event = .deliver cell delivery ∧
      delivery.input = .ok input ∧ l'.cache = l.cache.take cell input l.now := by
  cases h with
  | start => exact .inl cells_start
  | take running known is_input => exact .inr ⟨_, _, _, rfl, is_input, rfl⟩
  | _ => exact .inl rfl

theorem isRunning_iff : l.isRunning ↔ ∃ begun, l.cache.phase = .running begun := by
  unfold isRunning
  split <;> simp_all

end Life

end GatedManager.Cache
