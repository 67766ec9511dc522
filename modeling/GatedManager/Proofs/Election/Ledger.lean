import GatedManager.Proofs.Election.Attempt

/-!
# The stored writes of one elector

A ledger tells when the server stored the writes of one elector. A write may be stored at any time
after it was sent, whether or not its answer ever arrives: the write of an attempt that has ended
without an answer goes astray and may still be stored later. The server is honest in that it
answers that a write was stored only after it has stored it; `delay` bounds how long such an answer
takes to arrive. Every other answer may come at any time and say anything.
-/

namespace GatedManager.Election

structure Ledger where
  /-- When the write that waits for its answer was stored. -/
  current : Option Instant := none
  /-- How many writes of ended attempts may still be stored. -/
  astray : Nat := 0
  /-- When a write was last stored. -/
  latest : Option Instant := none
deriving Repr, DecidableEq

namespace Ledger

/-- The server stores the write of an attempt, which it does once. -/
def store? (l : Ledger) (attempt : Attempt) (now : Instant) : Option Ledger :=
  if attempt.isWrite ∧ l.current = none then
    some { l with current := some now, latest := some now }
  else none

/-- The server stores a write that had gone astray. -/
def storeAstray? (l : Ledger) (now : Instant) : Option Ledger :=
  match l.astray with
  | 0 => none
  | n + 1 => some { l with astray := n, latest := some now }

/-- Whether an answer can come now to an attempt. -/
def admits (l : Ledger) (delay : Duration) (attempt : Attempt) (answer : Answer)
    (now : Instant) : Bool :=
  attempt.awaits answer &&
    match answer with
    | .written (.ok ()) => l.current.any (now ≤ · + delay.nanos)
    | _ => true

/-- The attempt no longer waits for the answer to its request. -/
def leave (l : Ledger) (attempt : Attempt) : Ledger :=
  { l with
    current := none
    astray := if attempt.isWrite ∧ l.current = none then l.astray + 1 else l.astray }

/-- Nothing was stored in the future, and the last write is at least as late as the current one. -/
structure Sound (l : Ledger) (now : Instant) : Prop where
  past : ∀ s, l.latest = some s → s ≤ now
  last : ∀ s, l.current = some s → ∃ t, l.latest = some t ∧ s ≤ t

/-- `a` is no later than `delay` after the last stored write. -/
def Covers (l : Ledger) (delay : Duration) (a : Instant) : Prop :=
  ∃ s, l.latest = some s ∧ a ≤ s + delay.nanos

/-- Less than `d` has passed since the last stored write. -/
def IsLive (l : Ledger) (d : Duration) (now : Instant) : Prop :=
  ∃ s, l.latest = some s ∧ now < s + d.nanos

instance (l : Ledger) (d : Duration) (now : Instant) : Decidable (l.IsLive d now) :=
  match h : l.latest with
  | none => isFalse (by rintro ⟨s, hs, -⟩; simp [h] at hs)
  | some s => decidable_of_iff (now < s + d.nanos) (by simp [IsLive, h])

variable {l l' : Ledger} {attempt : Attempt} {answer : Answer} {delay : Duration} {now a : Instant}

theorem Sound.start (now : Instant) : Sound {} now := ⟨by simp, by simp⟩

theorem Sound.pass {now' : Instant} (h : l.Sound now) (hle : now ≤ now') : l.Sound now' :=
  ⟨fun s hs => Nat.le_trans (h.past s hs) hle, h.last⟩

theorem Sound.leave (h : l.Sound now) (attempt : Attempt) : (l.leave attempt).Sound now :=
  ⟨h.past, by simp [Ledger.leave]⟩

theorem Sound.store (hs : l.store? attempt now = some l') : l'.Sound now := by
  unfold store? at hs
  split at hs
  case isFalse => simp at hs
  case isTrue =>
    obtain rfl := Option.some.inj hs
    exact ⟨by simp, by simp⟩

theorem Sound.storeAstray (h : l.Sound now) (hs : l.storeAstray? now = some l') :
    l'.Sound now := by
  unfold storeAstray? at hs
  split at hs
  case h_1 => simp at hs
  case h_2 =>
    obtain rfl := Option.some.inj hs
    refine ⟨by simp, ?_⟩
    intro s hs
    obtain ⟨t, ht, hle⟩ := h.last s hs
    exact ⟨now, rfl, Nat.le_trans hle (h.past t ht)⟩

theorem latest_store (hs : l.store? attempt now = some l') : l'.latest = some now := by
  unfold store? at hs
  split at hs
  case isFalse => simp at hs
  case isTrue =>
    obtain rfl := Option.some.inj hs
    rfl

theorem latest_storeAstray (hs : l.storeAstray? now = some l') : l'.latest = some now := by
  unfold storeAstray? at hs
  split at hs
  case h_1 => simp at hs
  case h_2 =>
    obtain rfl := Option.some.inj hs
    rfl

/-- A later write covers what an earlier one did. -/
theorem covers_of_latest (hl : l'.latest = some now) (hle : a ≤ now) : l'.Covers delay a :=
  ⟨now, hl, Nat.le_trans hle (Nat.le_add_right _ _)⟩

/-- The answer that a write was stored comes within the delay after the last write. -/
theorem Sound.covers (h : l.Sound now) (ha : l.admits delay attempt (.written (.ok ())) now) :
    l.Covers delay now := by
  simp only [admits, Bool.and_eq_true, Option.any_eq_true, decide_eq_true_eq] at ha
  obtain ⟨-, s, hs, hle⟩ := ha
  obtain ⟨t, ht, hst⟩ := h.last s hs
  exact ⟨t, ht, Nat.le_trans hle (Nat.add_le_add_right hst _)⟩

end Ledger

end GatedManager.Election
