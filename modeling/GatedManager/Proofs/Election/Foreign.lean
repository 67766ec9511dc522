import GatedManager.Proofs.Election.Passage
import GatedManager.Proofs.Election.Stages
import GatedManager.Proofs.Election.Succession

/-!
# The lease of another holder

What an elector does with a lease that another holder has, and what the server answers while it
stores such a lease. The elector leaves the lease alone until its record has stood for the lease
duration. Then it replaces the lease, and the server stores what it writes, unless the counter of
holder changes has reached its end.
-/

namespace GatedManager.Election

open Api (Lease)
open Simulation (LeaseServer Response)

/-- The counter of a lease that was read ends with the greatest number of 32 bits. -/
theorem Record.transitions_of_spent {lease : Lease} (read : lease.IsRead)
    (spent : Json.int32Max ≤ (inLease lease).leaseTransitions.getD 0) :
    (inLease lease).leaseTransitions = some Json.int32Max := by
  cases transitions : (inLease lease).leaseTransitions with
  | none =>
      rw [transitions] at spent
      exact absurd spent (by decide)
  | some count =>
      rw [transitions] at spent
      have most := ((isWritable_inLease read).leaseTransitions count transitions).2
      exact congrArg some (Int.le_antisymm most spent)

/-- What an elector writes over a record with a text of its own is such a record. -/
theorem Record.IsWritable.next {current next : Record} {identity : String}
    {clock : Timestamp} {d : Duration} {expired : Bool} (h : current.IsWritable)
    (valid : clock.IsValid) (due : current.next? identity clock d expired = .ok (some next)) :
    next.IsWritable := by
  have counted : Record.IsInt32 (current.leaseTransitions.getD 0) := by
    cases counter : current.leaseTransitions with
    | none => exact ⟨by decide, by decide⟩
    | some n => exact h.leaseTransitions n counter
  refine ⟨Record.isTimely_of_next? h.toIsTimely valid due, ?_, ?_⟩
  · rw [Record.eq_of_next? due]
    rintro _ ⟨⟩
    exact Record.announcedSeconds_fits d
  · rw [Record.eq_of_next? due]
    rintro _ ⟨⟩
    split
    case isTrue => exact counted
    case isFalse other =>
      exact ⟨Int.le_add_one counted.1, Int.add_one_le_of_lt (Record.lt_of_next? due other)⟩

section Foreign

variable {e : Elector} {lease : Lease} {clock : Timestamp} {now : Instant}

/-- A record that is due can be written. -/
theorem Elector.advance_due (read : lease.IsRead) (valid : clock.IsValid)
    (reaches : Instant.reaches (e.remember (Record.inLease lease) now).since
      e.config.leaseDuration) {next : Record}
    (due : (Record.inLease lease).next? e.identity clock e.config.leaseDuration
      (decide ((e.remember (Record.inLease lease) now).since + e.config.leaseDuration.nanos ≤
        now)) = .ok (some next)) :
    ∃ lease', next.IsTimely ∧ renewedLease? lease next = some lease' ∧
      e.advance (.reading clock) (.read (.ok (some lease))) now =
        .ok ({ e with observed := some (e.remember (Record.inLease lease) now) },
          .waiting (.replacing next lease')) := by
  have writable := (Record.isWritable_inLease read).next valid due
  obtain ⟨spec, fits⟩ := Record.exists_toLeaseSpec? writable.toIsTimely
    writable.leaseDurationSeconds writable.leaseTransitions
  have written : renewedLease? lease next = some { lease with spec := some spec } := by
    rw [renewedLease?, fits, Option.map_some]
  have observed := observe_eq_ok_iff.2 ⟨reaches, rfl, rfl⟩
  refine ⟨_, writable.toIsTimely, written, ?_⟩
  simp [Elector.advance, Elector.onLease, Record.ofLease?_of_isRead read, observed, due, written]

variable (read : lease.IsRead) (past : e.RemembersPast now)
  (reaches : Instant.reaches now e.config.leaseDuration)

include read past reaches

theorem Elector.advance_replaced (valid : clock.IsValid) {next : Record}
    (due : (Record.inLease lease).next? e.identity clock e.config.leaseDuration
      (decide ((e.remember (Record.inLease lease) now).since + e.config.leaseDuration.nanos ≤
        now)) = .ok (some next)) :
    ∃ lease', next.IsTimely ∧ renewedLease? lease next = some lease' ∧
      e.advance (.reading clock) (.read (.ok (some lease))) now =
        .ok ({ e with observed := some (e.remember (Record.inLease lease) now) },
          .waiting (.replacing next lease')) :=
  advance_due read valid (past.reaches reaches _) due

/-- A record that is not due leaves the lease alone. -/
theorem Elector.advance_left
    (respected : (Record.inLease lease).next? e.identity clock e.config.leaseDuration
      (decide ((e.remember (Record.inLease lease) now).since + e.config.leaseDuration.nanos ≤
        now)) = .ok none) :
    e.advance (.reading clock) (.read (.ok (some lease))) now =
      .ok ({ e with observed := some (e.remember (Record.inLease lease) now) },
        .finished (.ok false)) := by
  simp [Elector.advance, Elector.onLease, Record.ofLease?_of_isRead read,
    past.exists_observe reaches, respected]

/-- The counter of holder changes has reached its end. -/
theorem Elector.advance_overflows
    (spent : (Record.inLease lease).next? e.identity clock e.config.leaseDuration
      (decide ((e.remember (Record.inLease lease) now).since + e.config.leaseDuration.nanos ≤
        now)) = .error .transitions) :
    e.advance (.reading clock) (.read (.ok (some lease))) now = .error .counterOverflow := by
  simp [Elector.advance, Elector.onLease, Record.ofLease?_of_isRead read,
    past.exists_observe reaches, spent]

variable (other : (Record.inLease lease).holder ≠ e.identity)
include other

theorem Elector.advance_respected (held : (Record.inLease lease).holder ≠ "")
    (lives : now < (e.remember (Record.inLease lease) now).since + e.config.leaseDuration.nanos) :
    e.advance (.reading clock) (.read (.ok (some lease))) now =
      .ok ({ e with observed := some (e.remember (Record.inLease lease) now) },
        .finished (.ok false)) :=
  advance_left read past reaches (by simp [Record.next?, held, other, lives])

theorem Elector.advance_spent
    (expired : (e.remember (Record.inLease lease) now).since + e.config.leaseDuration.nanos ≤ now)
    (spent : Json.int32Max ≤ (Record.inLease lease).leaseTransitions.getD 0) :
    e.advance (.reading clock) (.read (.ok (some lease))) now = .error .counterOverflow :=
  advance_overflows read past reaches
    (Record.next?_eq_error_iff.2 ⟨other, .inr (decide_eq_true expired), spent⟩)

theorem Elector.advance_taken (valid : clock.IsValid)
    (expired : (e.remember (Record.inLease lease) now).since + e.config.leaseDuration.nanos ≤ now)
    (left : (Record.inLease lease).leaseTransitions.getD 0 < Json.int32Max) :
    ∃ next lease', next.IsTimely ∧ renewedLease? lease next = some lease' ∧
      e.advance (.reading clock) (.read (.ok (some lease))) now =
        .ok ({ e with observed := some (e.remember (Record.inLease lease) now) },
          .waiting (.replacing next lease')) := by
  obtain ⟨next, due⟩ := Record.exists_next? clock e.config.leaseDuration other
    (.inr (decide_eq_true expired)) left
  exact ⟨next, advance_replaced read past reaches valid due⟩

end Foreign

/-! ### The server with the lease of another holder -/

/-- What a client reads of the server is a lease of another holder. -/
structure HeldByOther (identity : String) (server : LeaseServer) (lease : Lease) : Prop where
  stored : ∃ json name, server.stored = some json ∧ Lease.read? json = some lease ∧
    LeaseServer.versionOf json = some (.str name)
  held : (Record.inLease lease).holder ≠ ""
  other : (Record.inLease lease).holder ≠ identity

/-- A lease of another holder as it can be written. -/
structure IsForeign (identity : String) (json : Json) : Prop where
  tidy : LeaseServer.Tidy json
  foreign : ∃ lease record, Lease.read? json = some lease ∧ Record.ofLease? lease = some record ∧
    record.holder ≠ "" ∧ record.holder ≠ identity

namespace HeldByOther

variable {identity : String} {server : LeaseServer} {lease lease' : Lease} {next : Record}

theorem isRead (h : HeldByOther identity server lease) : lease.IsRead := by
  obtain ⟨json, -, -, read, -⟩ := h.stored
  exact Lease.isRead_of_read? read

theorem ofLease? (h : HeldByOther identity server lease) :
    Record.ofLease? lease = some (Record.inLease lease) := Record.ofLease?_of_isRead h.isRead

/-- The holder writes its lease. -/
theorem store (server : LeaseServer) {json : Json} (foreign : IsForeign identity json) :
    ∃ lease, HeldByOther identity (server.store (some json)) lease := by
  obtain ⟨lease, record, read, is_record, held, other⟩ := foreign.foreign
  have stored : Lease.read? (LeaseServer.setVersion (server.version + 1) json) = _ :=
    LeaseServer.read?_setVersion foreign.tidy read
  rw [Record.ofLease?_of_isRead (Lease.isRead_of_read? read)] at is_record
  obtain rfl := Option.some.inj is_record
  exact ⟨_, ⟨_, _, rfl, stored, LeaseServer.versionOf_setVersion foreign.tidy⟩, held, other⟩

theorem respond_get (h : HeldByOther identity server lease) :
    (server.respond .get).1.answer .get = .read (.ok (some lease)) ∧
      (server.respond .get).2 = server := by
  obtain ⟨json, -, found, read, -⟩ := h.stored
  exact ⟨LeaseServer.answer_get found read, by simp [LeaseServer.respond, found]⟩

theorem respond_replace (h : HeldByOther identity server lease) (timely : next.IsTimely)
    (written : Elector.renewedLease? lease next = some lease') :
    (server.respond (.replace lease')).1.answer (.replace lease') = .written (.ok ()) := by
  obtain ⟨json, name, found, read, named⟩ := h.stored
  obtain ⟨stored, again, -, -⟩ := Elector.read?_renewed h.isRead timely written
    (server.version + 1)
  obtain ⟨spec, -, rfl⟩ := Option.map_eq_some_iff.1 written
  have version := LeaseServer.resourceVersion_of_read? read named
  have current : (Json.str name == Json.str name) = true := beq_self_eq_true name
  simp [LeaseServer.respond, found, named, version, current, LeaseServer.store, Response.answer,
    Response.lease?, again, Except.map]

end HeldByOther

end GatedManager.Election
