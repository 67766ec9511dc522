import GatedManager.Gates.Wait
import GatedManager.Proofs.Gates.History

/-!
# The race for the first snapshot

A wait for the gates ends with a snapshot, with its cancellation or with its deadline. The snapshot
comes by a channel that counts what was published: the wait looks at it, registers for
notifications, compares the count with the one it has seen, and only then does it sleep. Snapshots
may be published before, between and after these steps, and the sleepers are notified of each of
them some time after it was published.

Time passes only while nobody has anything to do. Whenever several steps are possible, each of them
may be next.
-/

namespace GatedManager.Gates

open Api (ClusterVersion FeatureGate)

/-- How far a wait is with its look for a snapshot. -/
inductive Receiver
  /-- It is about to look. -/
  | looking
  /-- It has found nothing when as many snapshots were published as the number says. -/
  | missed (seen : Nat)
  /-- It is registered, and perhaps it has been notified since. -/
  | registered (seen : Nat) (notified : Bool)
  | asleep (seen : Nat) (notified : Bool)
deriving Repr, DecidableEq

/-- Whether the receiver has nothing to do until it is notified. -/
def Receiver.isIdle : Receiver → Bool
  | asleep _ notified => !notified
  | _ => false

/-- Only who is registered hears a notification. -/
def Receiver.notify : Receiver → Receiver
  | registered seen _ => registered seen true
  | asleep seen _ => asleep seen true
  | receiver => receiver

/-- The events of which the first one ends a wait. -/
inductive Racer
  | observation
  | cancellation
  | deadline
deriving Repr, DecidableEq

/-- What a wait returns that ends with this event. -/
def Racer.result : Racer → Except GateError Unit
  | observation => .ok ()
  | cancellation => .error .cancelled
  | deadline => .error .timedOut

inductive RaceStage
  | unbegun
  | waiting (start : Instant) (timeout : Duration) (receiver : Receiver)
  | ended (start : Instant) (timeout : Duration) (outcome : WaitResult)

/-- An accessor and a wait for its first snapshot. -/
structure Race where
  access : Access
  now : Instant
  /-- How many snapshots were published. -/
  published : Nat := 0
  /-- Of how many of them the sleepers still have to be notified. -/
  due : Nat := 0
  /-- When the first snapshot was published. -/
  observed : Option Instant := none
  /-- When the lifetime of the wait was cancelled first. -/
  cancelled : Option Instant := none
  stage : RaceStage := .unbegun

namespace Race

inductive Event
  /-- Time passes. -/
  | pass (now : Instant)
  /-- The accessor looks at the cluster. -/
  | sync (clusterVersion : Option ClusterVersion) (featureGate : Option FeatureGate)
  /-- The sleepers are notified of a publication. -/
  | notify
  | cancel
  | begin (timeout : Duration)
  /-- The wait goes on with its look for a snapshot. -/
  | receive
  /-- The wait takes notice of its cancellation. -/
  | noticeCancel
  /-- The timer of the wait fires. -/
  | timeOut

/-- An accessor that has not looked yet, and no wait. -/
def fresh (desiredVersion missingVersion : String) (now : Instant) : Race where
  access := { desiredVersion, missingVersion }
  now := now

/-- Whether nobody has anything to do before that instant. -/
def isQuietUntil (r : Race) (now : Instant) : Bool :=
  r.due = 0 && match r.stage with
    | .waiting start timeout receiver =>
      receiver.isIdle && r.cancelled.isNone && now ≤ Instant.timer start timeout
    | _ => true

def sync (r : Race) (clusterVersion : Option ClusterVersion) (featureGate : Option FeatureGate) :
    Race :=
  let (answer, access) := r.access.sync clusterVersion featureGate
  if Access.publishes answer then
    { r with
      access := access
      published := r.published + 1
      due := r.due + 1
      observed := r.observed.or (some r.now) }
  else { r with access := access }

def notify (r : Race) : Option Race :=
  match r.due with
  | 0 => none
  | due + 1 =>
    match r.stage with
    | .waiting start timeout receiver =>
      some { r with due := due, stage := .waiting start timeout receiver.notify }
    | _ => some { r with due := due }

/-- The step of the receiver, `none` when it sleeps. The look takes snapshot and count at once. -/
def receive (r : Race) : Option Race :=
  match r.stage with
  | .waiting start timeout receiver =>
    match receiver with
    | .looking =>
      if r.access.isObserved then
        some { r with stage := .ended start timeout ⟨Racer.observation.result, r.now⟩ }
      else some { r with stage := .waiting start timeout (.missed r.published) }
    | .missed seen => some { r with stage := .waiting start timeout (.registered seen false) }
    | .registered seen notified =>
      if r.published = seen then
        some { r with stage := .waiting start timeout (.asleep seen notified) }
      else some { r with stage := .waiting start timeout .looking }
    | .asleep seen true => some { r with stage := .waiting start timeout (.missed seen) }
    | .asleep _ false => none
  | _ => none

def noticeCancel (r : Race) : Option Race :=
  match r.stage with
  | .waiting start timeout _ =>
    if r.cancelled.isSome then
      some { r with stage := .ended start timeout ⟨Racer.cancellation.result, r.now⟩ }
    else none
  | _ => none

def timeOut (r : Race) : Option Race :=
  match r.stage with
  | .waiting start timeout _ =>
    if Instant.timer start timeout ≤ r.now then
      some { r with stage := .ended start timeout ⟨Racer.deadline.result, r.now⟩ }
    else none
  | _ => none

/-- The race after an event, `none` when the event is not possible. -/
def step (r : Race) : Event → Option Race
  | .pass now => if r.now < now ∧ r.isQuietUntil now then some { r with now := now } else none
  | .sync clusterVersion featureGate => some (r.sync clusterVersion featureGate)
  | .notify => r.notify
  | .cancel => some { r with cancelled := r.cancelled.or (some r.now) }
  | .begin timeout =>
    match r.stage with
    | .unbegun => some { r with stage := .waiting r.now timeout .looking }
    | _ => none
  | .receive => r.receive
  | .noticeCancel => r.noticeCancel
  | .timeOut => r.timeOut

/-! ### What a step does -/

/-- What the steps of a race do, each with what it needs. -/
inductive Proceeds (r : Race) : Event → Race → Prop
  | passed {now : Instant} (later : r.now < now) (quiet : r.isQuietUntil now) :
      Proceeds r (.pass now) { r with now := now }
  | silent (clusterVersion : Option ClusterVersion) (featureGate : Option FeatureGate) :
      Proceeds r (.sync clusterVersion featureGate) r
  | publication {access : Access} (clusterVersion : Option ClusterVersion)
      (featureGate : Option FeatureGate) (known : access.isObserved) :
      Proceeds r (.sync clusterVersion featureGate)
        { r with
          access := access
          published := r.published + 1
          due := r.due + 1
          observed := r.observed.or (some r.now) }
  | notified {due : Nat} {start : Instant} {timeout : Duration} {receiver : Receiver}
      (is_due : r.due = due + 1) (waiting : r.stage = .waiting start timeout receiver) :
      Proceeds r .notify { r with due := due, stage := .waiting start timeout receiver.notify }
  | unheard {due : Nat} (is_due : r.due = due + 1)
      (other : ∀ start timeout receiver, r.stage ≠ .waiting start timeout receiver) :
      Proceeds r .notify { r with due := due }
  | cancelled : Proceeds r .cancel { r with cancelled := r.cancelled.or (some r.now) }
  | begun (timeout : Duration) (unbegun : r.stage = .unbegun) :
      Proceeds r (.begin timeout) { r with stage := .waiting r.now timeout .looking }
  | found {start : Instant} {timeout : Duration}
      (waiting : r.stage = .waiting start timeout .looking) (known : r.access.isObserved) :
      Proceeds r .receive
        { r with stage := .ended start timeout ⟨Racer.observation.result, r.now⟩ }
  | missed {start : Instant} {timeout : Duration}
      (waiting : r.stage = .waiting start timeout .looking)
      (unknown : r.access.isObserved = false) :
      Proceeds r .receive { r with stage := .waiting start timeout (.missed r.published) }
  | registered {start : Instant} {timeout : Duration} {seen : Nat}
      (waiting : r.stage = .waiting start timeout (.missed seen)) :
      Proceeds r .receive { r with stage := .waiting start timeout (.registered seen false) }
  | slept {start : Instant} {timeout : Duration} {seen : Nat} {notified : Bool}
      (waiting : r.stage = .waiting start timeout (.registered seen notified))
      (same : r.published = seen) :
      Proceeds r .receive { r with stage := .waiting start timeout (.asleep seen notified) }
  | overtaken {start : Instant} {timeout : Duration} {seen : Nat} {notified : Bool}
      (waiting : r.stage = .waiting start timeout (.registered seen notified))
      (more : r.published ≠ seen) :
      Proceeds r .receive { r with stage := .waiting start timeout .looking }
  | woken {start : Instant} {timeout : Duration} {seen : Nat}
      (waiting : r.stage = .waiting start timeout (.asleep seen true)) :
      Proceeds r .receive { r with stage := .waiting start timeout (.missed seen) }
  | gaveUp {start : Instant} {timeout : Duration} {receiver : Receiver}
      (waiting : r.stage = .waiting start timeout receiver) (is_cancelled : r.cancelled.isSome) :
      Proceeds r .noticeCancel
        { r with stage := .ended start timeout ⟨Racer.cancellation.result, r.now⟩ }
  | timedOut {start : Instant} {timeout : Duration} {receiver : Receiver}
      (waiting : r.stage = .waiting start timeout receiver)
      (due : Instant.timer start timeout ≤ r.now) :
      Proceeds r .timeOut { r with stage := .ended start timeout ⟨Racer.deadline.result, r.now⟩ }

variable {r r' : Race} {event : Event}

theorem proceeds_sync (r : Race) (clusterVersion : Option ClusterVersion)
    (featureGate : Option FeatureGate) :
    Proceeds r (.sync clusterVersion featureGate) (r.sync clusterVersion featureGate) := by
  unfold sync
  rcases r.access.sync_cases clusterVersion featureGate with
    ⟨called, -⟩ | ⟨version, gate, -, -, -, called⟩ |
      ⟨version, gate, details, -, -, -, called⟩
  · rw [called]
    exact .silent clusterVersion featureGate
  · rw [called]
    exact .silent clusterVersion featureGate
  · rw [called]
    simp only [Access.publishes_publish, if_true]
    exact .publication clusterVersion featureGate rfl

theorem proceeds_notify (h : r.notify = some r') : Proceeds r .notify r' := by
  unfold notify at h
  split at h
  case h_1 => cases h
  case h_2 due is_due =>
    split at h
    case h_1 waiting => cases h; exact .notified is_due waiting
    case h_2 other => cases h; exact .unheard is_due other

theorem proceeds_receive (h : r.receive = some r') : Proceeds r .receive r' := by
  unfold receive at h
  split at h
  case h_2 => cases h
  case h_1 waiting =>
    split at h
    case h_1 =>
      split at h
      case isTrue known => cases h; exact .found waiting known
      case isFalse unknown => cases h; exact .missed waiting (Bool.eq_false_iff.2 unknown)
    case h_2 => cases h; exact .registered waiting
    case h_3 =>
      split at h
      case isTrue same => cases h; exact .slept waiting same
      case isFalse more => cases h; exact .overtaken waiting more
    case h_4 => cases h; exact .woken waiting
    case h_5 => cases h

theorem proceeds_of_step (h : r.step event = some r') : Proceeds r event r' := by
  cases event with
  | pass now =>
      simp only [step, Option.ite_none_right_eq_some, Option.some.injEq] at h
      obtain ⟨⟨later, quiet⟩, rfl⟩ := h
      exact .passed later quiet
  | sync clusterVersion featureGate =>
      obtain rfl := Option.some.inj h
      exact proceeds_sync r clusterVersion featureGate
  | notify => exact proceeds_notify h
  | cancel =>
      obtain rfl := Option.some.inj h
      exact .cancelled
  | begin timeout =>
      simp only [step] at h
      split at h
      case h_1 unbegun => cases h; exact .begun timeout unbegun
      case h_2 => cases h
  | receive => exact proceeds_receive h
  | noticeCancel =>
      simp only [step, noticeCancel] at h
      split at h
      case h_2 => cases h
      case h_1 waiting =>
        split at h
        case isTrue is_cancelled => cases h; exact .gaveUp waiting is_cancelled
        case isFalse => cases h
  | timeOut =>
      simp only [step, timeOut] at h
      split at h
      case h_2 => cases h
      case h_1 waiting =>
        split at h
        case isTrue due => cases h; exact .timedOut waiting due
        case isFalse => cases h

end Race

end GatedManager.Gates
