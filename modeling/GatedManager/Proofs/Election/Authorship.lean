import GatedManager.Proofs.Election.Stages
import GatedManager.Proofs.Election.Succession

/-!
# Whom a written lease names

Every lease that an elector sends names it as the holder, whether it creates the lease or replaces
one. A campaign keeps its elector, so all its writes name the same replica.
-/

namespace GatedManager.Election

open Api (Lease LeaseSpec)

/-- The holder that a lease names. -/
def holder? (lease : Lease) : Option String := lease.spec.bind (·.holderIdentity)

/-- The lease that an attempt sends. -/
def Attempt.lease? : Attempt → Option Lease
  | reading _ => none
  | creating _ lease => some lease
  | replacing _ lease => some lease

/-- Whether what an attempt sends names this replica. -/
def Attempt.Names (attempt : Attempt) (identity : String) : Prop :=
  ∀ lease, attempt.lease? = some lease → holder? lease = some identity

theorem Attempt.names_reading (clock : Timestamp) (identity : String) :
    (reading clock).Names identity := by
  intro lease sends
  cases sends

variable {identity : String} {record : Record} {lease lease' : Lease}

theorem Record.holder_of_toLeaseSpec? {spec : LeaseSpec} (h : record.toLeaseSpec? = some spec) :
    spec.holderIdentity = record.holderIdentity := by
  obtain ⟨-, holder_eq, -⟩ := (LeaseSpec.read?_iff (objectFields?_record record)).1 h
  exact optional_str holder_eq

theorem Elector.holder?_new {e : Elector} (h : e.newLease? record = some lease) :
    holder? lease = record.holderIdentity := by
  obtain ⟨spec, fits, rfl⟩ := Option.map_eq_some_iff.1 h
  exact Record.holder_of_toLeaseSpec? fits

theorem Elector.holder?_renewed (h : renewedLease? lease record = some lease') :
    holder? lease' = record.holderIdentity := by
  obtain ⟨spec, fits, rfl⟩ := Option.map_eq_some_iff.1 h
  exact Record.holder_of_toLeaseSpec? fits

/-- An attempt that goes on sends a lease in the name of its elector. -/
theorem Elector.Advances.names {e e' : Elector} {now : Instant} {attempt next : Attempt}
    {answer : Answer} (h : Advances e now attempt answer e' (.waiting next))
    (before : attempt.Names e.identity) : next.Names e.identity := by
  cases h with
  | create clock lease written =>
      rintro _ ⟨⟩
      exact holder?_new written
  | replace clock lease _ _ due written =>
      rintro _ ⟨⟩
      rw [holder?_renewed written, Record.eq_of_next? due]
  | stray => exact before

/-- The attempt that goes on. -/
def Progress.next? : Progress → Option Attempt
  | waiting next => some next
  | finished _ => none

namespace Campaign

variable {c c' : Campaign} {now : Instant}

theorem attempt?_attempting {attempt : Attempt} (ha : c.attempt? = some attempt)
    (elector : Elector) (next : Attempt) : (c.attempting elector next).attempt? = some next := by
  rcases attempt?_eq_some_iff.1 ha with h | ⟨d, h⟩
  · rw [attempting, h]
    rfl
  · rw [attempting, h]
    rfl

theorem attempt?_conclude {attempt : Attempt} (ha : c.attempt? = some attempt)
    (elector : Elector) (held : Bool) : (c.conclude elector held now).attempt? = none := by
  rcases attempt?_eq_some_iff.1 ha with h | ⟨d, h⟩
  · rw [conclude, h]
    cases held <;> cases c.cancelled <;> rfl
  · rw [conclude, h]
    cases held <;> cases c.cancelled <;> rfl

/-- The attempt that is open after a step is the one that goes on. -/
theorem attempt?_proceed {attempt : Attempt} (ha : c.attempt? = some attempt) (elector : Elector)
    (progress : Progress) : (c.proceed elector progress now).attempt? = progress.next? := by
  match progress with
  | .waiting next => exact attempt?_attempting ha elector next
  | .finished (.ok held) => exact attempt?_conclude ha elector held
  | .finished (.error error) => exact attempt?_conclude ha elector false

/-- Whether the elector of a campaign is this replica, and what it sends names it. -/
structure IsOwn (c : Campaign) (identity : String) : Prop where
  elector : c.elector.identity = identity
  names : ∀ attempt, c.attempt? = some attempt → attempt.Names identity

theorem isOwn_acquire {e : Elector} (own : e.identity = identity) (cancelled : Bool)
    (clock : Timestamp) : (acquire e cancelled clock).IsOwn identity := by
  refine ⟨own, fun attempt is_attempt => ?_⟩
  obtain rfl := Option.some.inj is_attempt
  exact Attempt.names_reading clock identity

theorem isOwn_hold {e : Elector} (own : e.identity = identity) (cancelled : Bool) :
    (hold e cancelled now).IsOwn identity := by
  refine ⟨own, fun attempt is_attempt => ?_⟩
  cases cancelled <;> cases is_attempt

theorem IsOwn.answer {answer : Answer} (h : c.IsOwn identity) (open_ : c.attempt?.isSome)
    (hs : c.answer answer now = .ok c') : c'.IsOwn identity := by
  obtain ⟨attempt, ha⟩ := Option.isSome_iff_exists.1 open_
  obtain ⟨elector, progress, advances, rfl⟩ := answer_eq_ok ha hs
  refine ⟨?_, fun next is_next => ?_⟩
  · rw [proceed_elector ha, advances.frame.1, h.elector]
  · rw [attempt?_proceed ha] at is_next
    cases progress with
    | waiting following =>
        obtain rfl := Option.some.inj is_next
        exact h.elector ▸ advances.names (h.elector.symm ▸ h.names attempt ha)
    | finished result => cases is_next

/-- An attempt that begins when a timer fires sends nothing yet. -/
theorem attempt?_wake {attempt : Attempt} {clock : Timestamp}
    (h : (c.wake now clock).attempt? = some attempt) :
    attempt = .reading clock ∨ c.attempt? = some attempt := by
  unfold wake at h
  split at h
  case h_1 =>
    split at h
    · exact .inl (Option.some.inj h).symm
    · exact .inr h
  case h_2 =>
    simp only at h
    split at h
    · exact .inl (Option.some.inj h).symm
    · exact .inr h
  case h_3 =>
    split at h
    · cases h
    split at h
    · exact .inl (Option.some.inj h).symm
    · exact .inr h
  case h_4 =>
    split at h
    · cases h
    · exact .inr h
  case h_5 => exact .inr h

theorem IsOwn.wake (h : c.IsOwn identity) (clock : Timestamp) :
    (c.wake now clock).IsOwn identity := by
  refine ⟨(congrArg Elector.identity (wake_elector c now clock)).trans h.elector, ?_⟩
  intro attempt is_attempt
  rcases attempt?_wake is_attempt with rfl | before
  · exact Attempt.names_reading clock identity
  · exact h.names attempt before

theorem IsOwn.signal (h : c.IsOwn identity) : c.signal.IsOwn identity := ⟨h.elector, h.names⟩

theorem attempt?_cancel : c.cancel.attempt? = c.attempt? ∨ c.cancel.attempt? = none := by
  unfold Campaign.cancel
  split
  case h_4 => exact .inl rfl
  all_goals exact .inr rfl

theorem IsOwn.cancel (h : c.IsOwn identity) : c.cancel.IsOwn identity := by
  refine ⟨(congrArg Elector.identity (cancel_elector c)).trans h.elector, ?_⟩
  intro attempt is_attempt
  rcases @attempt?_cancel c with same | closed
  · exact h.names attempt (same.symm.trans is_attempt)
  · exact nomatch closed.symm.trans is_attempt

end Campaign

end GatedManager.Election
