import GatedManager.Proofs.Election.Record
import GatedManager.Proofs.Simulation.LeaseServer

/-!
# Records that follow one another

An elector that replaces a lease writes its own record over the one it read. What is kept of the old
record depends on whether the holder stays: a holder that stays keeps its start and the counter of
changes, a new one starts with its write and counts one change more. The server stores the new
record with its times cut, and the metadata of the lease as it was read.
-/

namespace GatedManager.Election

open Api (Lease LeaseSpec ObjectMeta)
open Simulation (LeaseServer)

namespace Record

/-- `new` is what `identity` writes over `old`. -/
structure Follows (identity : String) (d : Duration) (old new : Record) : Prop where
  holder : new.holderIdentity = some identity
  duration : new.leaseDurationSeconds = some (announcedSeconds d)
  renewed : new.renewTime.isSome
  kept : old.holder = new.holder →
    new.acquireTime = old.acquireTime.or new.renewTime ∧
      new.leaseTransitions = some (old.leaseTransitions.getD 0)
  changed : old.holder ≠ new.holder →
    new.acquireTime = new.renewTime ∧
      new.leaseTransitions = some (old.leaseTransitions.getD 0 + 1)

variable {current next : Record} {identity : String} {clock : Timestamp} {d : Duration}
  {expired : Bool}

/-- A record that is due was free, the elector's own or expired. -/
theorem expired_of_next? (h : current.next? identity clock d expired = .ok (some next))
    (held : current.holder ≠ "") (other : current.holder ≠ identity) : expired = true := by
  cases expired with
  | true => rfl
  | false => simp [next?, held, other] at h

/-- The record that is due, field by field. -/
theorem eq_of_next? (h : current.next? identity clock d expired = .ok (some next)) :
    next = {
      holderIdentity := some identity
      leaseDurationSeconds := some (announcedSeconds d)
      acquireTime := some (if current.holder = identity then current.acquireTime.getD clock
        else clock)
      renewTime := some clock
      leaseTransitions := some (if current.holder = identity then current.leaseTransitions.getD 0
        else current.leaseTransitions.getD 0 + 1) } := by
  unfold next? at h
  split at h
  · cases h
  split at h
  case isTrue own =>
    cases h
    simp only [own, if_true]
  case isFalse other =>
    simp only at h
    split at h
    · cases h
    · cases h
      simp only [other, if_false]

/-- Only a new holder can find the counter at its end. -/
theorem next?_eq_error_iff {overflow : CounterOverflow} :
    current.next? identity clock d expired = .error overflow ↔
      current.holder ≠ identity ∧ (current.holder = "" ∨ expired) ∧
        Json.int32Max ≤ current.leaseTransitions.getD 0 := by
  unfold next?
  split
  case isTrue held =>
    have lives : expired = false := by simpa using held.2.2
    simp [held.1, lives]
  case isFalse free =>
    split
    case isTrue own => simp [own]
    case isFalse other =>
      have due : current.holder = "" ∨ expired := by
        refine (Decidable.em (current.holder = "")).imp_right fun held => ?_
        simpa [held, other] using free
      simp only [gt_iff_lt, Int.lt_add_one_iff]
      split <;> simp [*]

theorem lt_of_next? (h : current.next? identity clock d expired = .ok (some next))
    (other : current.holder ≠ identity) : current.leaseTransitions.getD 0 < Json.int32Max := by
  unfold next? at h
  split at h
  case isTrue => cases h
  case isFalse =>
    simp only at h
    split at h
    case isTrue => cases h
    case isFalse fits => exact Int.lt_of_add_one_le (Int.not_lt.1 fits)

theorem exists_next? (clock : Timestamp) (d : Duration) (other : current.holder ≠ identity)
    (due : current.holder = "" ∨ expired)
    (left : current.leaseTransitions.getD 0 < Json.int32Max) :
    ∃ next, current.next? identity clock d expired = .ok (some next) := by
  have free : ¬(current.holder ≠ "" ∧ current.holder ≠ identity ∧ !expired) := by
    rcases due with free | lapsed
    · simp [free]
    · simp [lapsed]
  rw [next?, if_neg free, if_neg other]
  simp only
  rw [if_neg (Int.not_lt.2 (Int.add_one_le_of_lt left))]
  exact ⟨_, rfl⟩

theorem holder_of_next? (h : current.next? identity clock d expired = .ok (some next)) :
    next.holder = identity := by
  rw [eq_of_next? h]
  rfl

theorem isTimely_of_next? (timely : current.IsTimely) (valid : clock.IsValid)
    (h : current.next? identity clock d expired = .ok (some next)) : next.IsTimely := by
  rw [eq_of_next? h]
  constructor
  · rintro t ⟨⟩
    split
    · cases start : current.acquireTime with
      | none => exact valid
      | some t => exact timely.acquireTime t start
    · exact valid
  · rintro t ⟨⟩
    exact valid

/-- The record that is due follows the one that was read, also when its times are cut. -/
theorem follows_of_next? (whole : current.cut = current)
    (h : current.next? identity clock d expired = .ok (some next)) :
    Follows identity d current next.cut := by
  obtain rfl := eq_of_next? h
  refine ⟨rfl, rfl, rfl, ?_, ?_⟩
  · intro same
    replace same : current.holder = identity := same
    have start : current.acquireTime.map (·.cut .micros) = current.acquireTime :=
      congrArg acquireTime whole
    refine ⟨?_, by simp only [cut, same, if_true]⟩
    cases acquired : current.acquireTime with
    | none => simp [cut, same]
    | some t => simpa [cut, same, acquired] using start
  · intro different
    replace different : current.holder ≠ identity := different
    exact ⟨by simp only [cut, different, if_false], by simp only [cut, different, if_false]⟩

/-- A stored lease shows the record that was written in it, and its metadata. -/
theorem read?_recorded {record : Record} {md : ObjectMeta} {spec : LeaseSpec}
    (known : ∃ j, ObjectMeta.read? j = some md) (timely : record.IsTimely)
    (fits : record.toLeaseSpec? = some spec) (version : Nat) :
    ∃ stored : Lease,
      Lease.read? (LeaseServer.setVersion version (Lease.toJson ⟨md, some spec⟩)) = some stored ∧
      stored.metadata = { md.wholeSeconds with resourceVersion := some (toString version) } ∧
      ofLease? stored = some record.cut := by
  have written : Lease.IsRead ⟨md, some spec⟩ := by
    refine ⟨known, ?_⟩
    rintro spec ⟨⟩
    exact ⟨_, fits⟩
  have read := LeaseServer.read?_stored version written
  refine ⟨_, read, rfl, ?_⟩
  rw [ofLease?_of_isRead (Lease.isRead_of_read? read)]
  have same : ofSpec spec.cutMicros = (ofSpec spec).cut := rfl
  rw [ofSpec_of_toLeaseSpec? timely fits] at same
  simp [inLease, Lease.cut, same]

end Record

namespace Elector

variable {elector : Elector} {lease read : Lease} {record : Record}

theorem read?_renewed (known : read.IsRead) (timely : record.IsTimely)
    (written : renewedLease? read record = some lease) (version : Nat) :
    ∃ stored : Lease, Lease.read? (LeaseServer.setVersion version lease.toJson) = some stored ∧
      stored.metadata =
        { read.metadata.wholeSeconds with resourceVersion := some (toString version) } ∧
      Record.ofLease? stored = some record.cut := by
  obtain ⟨spec, fits, rfl⟩ := Option.map_eq_some_iff.1 written
  exact Record.read?_recorded known.metadata timely fits version

/-- The metadata of a new lease. -/
def newMetadata (config : Config) : ObjectMeta where
  name := some config.resourceName
  namespaceName := some config.resourceNamespace

theorem read?_new (timely : record.IsTimely) (written : elector.newLease? record = some lease)
    (version : Nat) :
    ∃ stored : Lease, Lease.read? (LeaseServer.setVersion version lease.toJson) = some stored ∧
      stored.metadata =
        { newMetadata elector.config with resourceVersion := some (toString version) } ∧
      Record.ofLease? stored = some record.cut := by
  obtain ⟨spec, fits, rfl⟩ := Option.map_eq_some_iff.1 written
  have known : ∃ j, ObjectMeta.read? j = some (newMetadata elector.config) :=
    ⟨.obj [("name", .str elector.config.resourceName),
      ("namespace", .str elector.config.resourceNamespace)], rfl⟩
  exact Record.read?_recorded known timely fits version

end Elector

end GatedManager.Election
