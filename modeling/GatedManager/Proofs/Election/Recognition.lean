import GatedManager.Proofs.Election.Foreign

/-!
# An elector and the record it has written

After a write an elector remembers the record it has sent. When it reads the lease again it compares
what it reads with that. The record has been through the lease in the meantime, and what its times
had below a microsecond is gone. So the elector knows its record again exactly if the clock reading
that it wrote was in whole microseconds. Otherwise it takes its own record for a new one, and the
time since which the record has stood starts anew.
-/

namespace GatedManager.Election

open Api (Lease)
open Simulation (LeaseServer)

/-- What an attempt with the reading `clock` writes: a record of the elector that is renewed then,
and a lease that shows this record once it is stored. -/
structure Attempt.Writes (attempt : Attempt) (identity : String) (clock : Timestamp)
    (record : Record) (lease : Lease) : Prop where
  attempt_eq : attempt = .creating record lease ∨ attempt = .replacing record lease
  holder : record.holder = identity
  renewed : record.renewTime = some clock
  acquired : ∀ t, record.acquireTime = some t → t = clock ∨ t.truncateMicros = t
  shown : ∀ version, ∃ stored : Lease,
    Lease.read? (LeaseServer.setVersion version lease.toJson) = some stored ∧
      Record.ofLease? stored = some record.truncateMicros

namespace Record

/-- The start that a lease shows is in whole microseconds. -/
theorem truncateMicros_acquireTime {lease : Lease} {t : Timestamp}
    (start : (inLease lease).acquireTime = some t) : t.truncateMicros = t := by
  have cut : (inLease lease).acquireTime.map (·.cut .micros) = (inLease lease).acquireTime :=
    congrArg acquireTime (cut_inLease lease)
  rw [start] at cut
  rw [← Timestamp.cut_micros]
  exact Option.some.inj cut

/-- The start in a record that is due is the time of the write, or it was read. -/
theorem acquired_of_next? {lease : Lease} {next : Record} {identity : String} {clock : Timestamp}
    {d : Duration} {expired : Bool}
    (due : (inLease lease).next? identity clock d expired = .ok (some next)) :
    ∀ t, next.acquireTime = some t → t = clock ∨ t.truncateMicros = t := by
  rw [eq_of_next? due]
  rintro t ⟨⟩
  split
  · cases start : (inLease lease).acquireTime with
    | none => exact .inl rfl
    | some t => exact .inr (truncateMicros_acquireTime start)
  · exact .inl rfl

end Record

namespace Attempt.Writes

variable {attempt : Attempt} {identity : String} {clock : Timestamp} {record : Record}
  {lease : Lease}

/-- The times of the record pass unchanged exactly if the clock reading does. -/
theorem truncateMicros_eq_iff (h : attempt.Writes identity clock record lease) :
    record.truncateMicros = record ↔ 1000 ∣ clock.nanos := by
  rw [← Timestamp.truncateMicros_eq_self_iff]
  constructor
  · intro same
    have renewed : record.renewTime.map Timestamp.truncateMicros = record.renewTime :=
      congrArg Record.renewTime same
    rw [h.renewed] at renewed
    exact Option.some.inj renewed
  · intro whole
    have acquired : record.acquireTime.map Timestamp.truncateMicros = record.acquireTime := by
      cases start : record.acquireTime with
      | none => rfl
      | some t =>
          rcases h.acquired t start with rfl | kept
          · exact congrArg some whole
          · exact congrArg some kept
    rw [Record.truncateMicros, acquired, h.renewed, Option.map_some, whole, ← h.renewed]

/-- A write that succeeded can be read, and what its lease shows is the record that was sent with
its times cut. -/
theorem exists_stored (h : attempt.Writes identity clock record lease) {server : LeaseServer}
    (succeeded : (server.respond attempt.request).1.answer attempt.request = .written (.ok ())) :
    ∃ stored : Lease, stored.IsRead ∧ Record.inLease stored = record.truncateMicros ∧
      ((server.respond attempt.request).2.respond .get).1.answer .get =
        .read (.ok (some stored)) := by
  obtain ⟨sent, request, stores⟩ := LeaseServer.stored_of_written succeeded
  obtain rfl : sent = lease := by
    rcases h.attempt_eq with rfl | rfl
    · simpa [Attempt.request, eq_comm] using request
    · simpa [Attempt.request, eq_comm] using request
  obtain ⟨stored, again, shows⟩ := h.shown (server.version + 1)
  have read : stored.IsRead := Lease.isRead_of_read? again
  refine ⟨stored, read, ?_, ?_⟩
  · exact Option.some.inj ((Record.ofLease?_of_isRead read).symm.trans shows)
  · rw [stores]
    exact LeaseServer.answer_get rfl again

end Attempt.Writes

namespace Elector

variable {e e₁ e₂ : Elector} {clock : Timestamp} {attempt : Attempt}
  {now readAt writtenAt : Instant}

/-- Both kinds of write are such writes. -/
theorem Advances.writes {answer : Answer}
    (h : Advances e now (.reading clock) answer e₁ (.waiting attempt)) (valid : clock.IsValid)
    (known : ∀ lease, answer = .read (.ok (some lease)) → lease.IsRead) (sends : attempt.isWrite) :
    ∃ record lease, attempt.Writes e.identity clock record lease := by
  cases h with
  | create clock lease written =>
      have timely := Record.isTimely_first e.identity valid e.config.leaseDuration
      refine ⟨_, lease, .inl rfl, rfl, rfl, ?_, fun version => ?_⟩
      · rintro _ ⟨⟩
        exact .inl rfl
      · obtain ⟨stored, again, -, shows⟩ := read?_new timely written version
        exact ⟨stored, again, Record.cut_eq_truncateMicros _ ▸ shows⟩
  | replace clock lease readable observed due written =>
      have read : lease.IsRead := known lease rfl
      obtain rfl := Option.some.inj (readable.symm.trans (Record.ofLease?_of_isRead read))
      have timely := Record.isTimely_of_next? (Record.isTimely_inLease read) valid due
      refine ⟨_, _, .inr rfl, Record.holder_of_next? due, ?_, Record.acquired_of_next? due,
        fun version => ?_⟩
      · rw [Record.eq_of_next? due]
      · obtain ⟨stored, again, -, shows⟩ := read?_renewed read timely written version
        exact ⟨stored, again, Record.cut_eq_truncateMicros _ ▸ shows⟩
  | stray => cases sends

/-- The elector knows the record of a lease: whenever it reads the lease, it goes on to renew it,
and nothing that it remembers changes. -/
def Recognises (e : Elector) (stored : Lease) : Prop :=
  (∃ seen, e.observed = some seen ∧ Record.ofLease? stored = some seen.record) ∧
    ∀ clock now, clock.IsValid → ∃ attempt,
      e.advance (.reading clock) (.read (.ok (some stored))) now = .ok (e, .waiting attempt)

/-- The elector does not know the record of a lease: it goes on to renew the lease, but it counts
from the instant of its reading. -/
def TakesForNew (e : Elector) (stored : Lease) : Prop :=
  ∃ record, Record.ofLease? stored = some record ∧
    (∃ seen, e.observed = some seen ∧ seen.record ≠ record) ∧
    ∀ clock now, clock.IsValid → Instant.reaches now e.config.leaseDuration → ∃ attempt,
      e.advance (.reading clock) (.read (.ok (some stored))) now =
        .ok ({ e with observed := some ⟨record, now⟩ }, .waiting attempt)

section Reading

variable {stored : Lease} {seen : Observed} (read : stored.IsRead)
  (own : (Record.inLease stored).holder = e.identity) (remembers : e.observed = some seen)

include read own

/-- An elector that reads its own lease goes on to renew it. -/
theorem exists_renewal (valid : clock.IsValid)
    (reaches : Instant.reaches (e.remember (Record.inLease stored) now).since
      e.config.leaseDuration) :
    ∃ attempt, e.advance (.reading clock) (.read (.ok (some stored))) now =
      .ok ({ e with observed := some (e.remember (Record.inLease stored) now) },
        .waiting attempt) := by
  have due : ∀ expired, ∃ next, (Record.inLease stored).next? e.identity clock
      e.config.leaseDuration expired = .ok (some next) := by
    intro expired
    have free : ¬((Record.inLease stored).holder ≠ "" ∧
        (Record.inLease stored).holder ≠ e.identity ∧ !expired) :=
      fun held => held.2.1 own
    rw [Record.next?, if_neg free, if_pos own]
    exact ⟨_, rfl⟩
  obtain ⟨next, is_due⟩ := due _
  obtain ⟨lease, -, -, advances⟩ := advance_due read valid reaches is_due
  exact ⟨_, advances⟩

include remembers

theorem recognises (reaches : Instant.reaches seen.since e.config.leaseDuration)
    (same : seen.record = Record.inLease stored) : e.Recognises stored := by
  refine ⟨⟨seen, remembers, same ▸ Record.ofLease?_of_isRead read⟩, ?_⟩
  intro clock now valid
  have keeps : e.remember (Record.inLease stored) now = seen := by
    simp only [remember, remembers, same, if_true]
  obtain ⟨attempt, advances⟩ := exists_renewal read own valid (keeps.symm ▸ reaches)
  rw [keeps, ← remembers] at advances
  exact ⟨attempt, advances⟩

theorem takesForNew (different : seen.record ≠ Record.inLease stored) :
    e.TakesForNew stored := by
  refine ⟨_, Record.ofLease?_of_isRead read, ⟨seen, remembers, different⟩, ?_⟩
  intro clock now valid reaches
  have restarts : e.remember (Record.inLease stored) now = ⟨Record.inLease stored, now⟩ := by
    simp only [remember, remembers, different, if_false]
  have in_time : Instant.reaches (e.remember (Record.inLease stored) now).since
      e.config.leaseDuration := by
    rw [restarts]
    exact reaches
  obtain ⟨attempt, advances⟩ := exists_renewal read own valid in_time
  rw [restarts] at advances
  exact ⟨attempt, advances⟩

end Reading

/-- What an elector remembers after its write is what it has sent. -/
theorem Advances.remembers_written {answer : Answer} {record : Record} {lease : Lease}
    (h : Advances e now attempt answer e₁ (.finished (.ok true)))
    (sent : attempt = .creating record lease ∨ attempt = .replacing record lease) :
    ∃ seen, e₁ = { e with observed := some seen } ∧ seen.record = record ∧
      Instant.reaches seen.since e.config.leaseDuration := by
  cases h with
  | @written _ noted lease' _ _ write observed =>
      obtain ⟨rfl, -⟩ : noted = record ∧ lease' = lease := by
        rcases write with rfl | rfl
        · simpa using sent
        · simpa using sent
      obtain ⟨reaches, -, rfl⟩ := observe_eq_ok_iff.1 observed
      exact ⟨_, rfl, remember_record .., reaches⟩

/-- An elector that reads the lease as its own write has left it knows its record again exactly if
the clock reading that it wrote was in whole microseconds. -/
theorem recognises_own_write {before server : LeaseServer} (valid : clock.IsValid)
    (reads : e.advance (.reading clock) ((before.respond .get).1.answer .get) readAt =
      .ok (e₁, .waiting attempt))
    (wins : e₁.advance attempt ((server.respond attempt.request).1.answer attempt.request)
      writtenAt = .ok (e₂, .finished (.ok true))) :
    ∃ stored,
      ((server.respond attempt.request).2.respond .get).1.answer .get = .read (.ok (some stored)) ∧
      (1000 ∣ clock.nanos → e₂.Recognises stored) ∧
      (¬1000 ∣ clock.nanos → e₂.TakesForNew stored) := by
  have read := advances_of_advance reads
  have won := advances_of_advance wins
  obtain ⟨sends, succeeded⟩ := won.held
  have known : ∀ lease, (before.respond .get).1.answer .get = .read (.ok (some lease)) →
      lease.IsRead := by
    intro lease shown
    obtain ⟨json, -, read⟩ := LeaseServer.stored_of_answer shown
    exact Lease.isRead_of_read? read
  obtain ⟨record, lease, writes⟩ := read.writes valid known sends
  obtain ⟨seen, rfl, remembers, reaches⟩ := won.remembers_written writes.attempt_eq
  obtain ⟨stored, is_read, passed, shown⟩ := writes.exists_stored succeeded
  have own : (Record.inLease stored).holder = e₁.identity := by
    rw [passed, read.frame.1, ← writes.holder]
    rfl
  have same_iff : seen.record = Record.inLease stored ↔ 1000 ∣ clock.nanos := by
    rw [passed, remembers, eq_comm]
    exact writes.truncateMicros_eq_iff
  refine ⟨stored, shown, ?_, ?_⟩
  · intro whole
    exact recognises is_read own rfl reaches (same_iff.2 whole)
  · intro cut
    exact takesForNew is_read own rfl fun same => cut (same_iff.1 same)

/-- A replica with the standard durations that has just been restarted. -/
def restarted : Elector := { identity := "replica-0", config := {} }

/-- Its lease, last renewed in the microsecond of its next attempt. -/
def ownLease : Json :=
  .obj [("metadata", .obj [("name", .str "manager-leader")]),
    ("spec", .obj [("acquireTime", .str "2024-05-01T00:00:00.123456Z"),
      ("holderIdentity", .str "replica-0"), ("leaseDurationSeconds", .int 15),
      ("leaseTransitions", .int 0), ("renewTime", .str "2024-05-01T00:00:00.123456Z")])]

def holding : LeaseServer := LeaseServer.store {} (some ownLease)

theorem renewal_recognised : ∃ e₁ attempt e₂ stored,
    restarted.advance (.reading ⟨1714521600, 123456000⟩) ((holding.respond .get).1.answer .get) 0 =
      .ok (e₁, .waiting attempt) ∧
    e₁.advance attempt ((holding.respond attempt.request).1.answer attempt.request) 0 =
      .ok (e₂, .finished (.ok true)) ∧
    ((holding.respond attempt.request).2.respond .get).1.answer .get =
      .read (.ok (some stored)) ∧
    e₂.Recognises stored := by
  have valid : Timestamp.IsValid ⟨1714521600, 123456000⟩ := ⟨by decide, by decide, by decide⟩
  obtain ⟨e₁, attempt, e₂, reads, wins⟩ : ∃ e₁ attempt e₂,
      restarted.advance (.reading ⟨1714521600, 123456000⟩)
        ((holding.respond .get).1.answer .get) 0 = .ok (e₁, .waiting attempt) ∧
      e₁.advance attempt ((holding.respond attempt.request).1.answer attempt.request) 0 =
        .ok (e₂, .finished (.ok true)) := ⟨_, _, _, rfl, rfl⟩
  obtain ⟨stored, shown, recognised, -⟩ := recognises_own_write valid reads wins
  exact ⟨e₁, attempt, e₂, stored, reads, wins, shown, recognised (by decide)⟩

/-- A reading of the clock with some nanoseconds: the lease has the same record before the write,
after it and in the next attempt, and yet the elector counts from the instant of that attempt. -/
theorem own_record_taken_for_new : ∃ e₁ attempt e₂ stored e₃ next,
    restarted.advance (.reading ⟨1714521600, 123456789⟩) ((holding.respond .get).1.answer .get) 0 =
      .ok (e₁, .waiting attempt) ∧
    e₁.advance attempt ((holding.respond attempt.request).1.answer attempt.request) 0 =
      .ok (e₂, .finished (.ok true)) ∧
    ((holding.respond attempt.request).2.respond .get).1.answer .get =
      .read (.ok (some stored)) ∧
    (Lease.read? ownLease).bind Record.ofLease? = Record.ofLease? stored ∧
    e₂.advance (.reading ⟨1714521602, 0⟩) (.read (.ok (some stored))) 2000000000 =
      .ok (e₃, .waiting next) ∧
    e₂.observed.map (·.since) = some 0 ∧ e₃.observed.map (·.since) = some 2000000000 :=
  ⟨_, _, _, _, _, _, rfl, rfl, rfl, rfl, rfl, rfl, rfl⟩

end Elector

end GatedManager.Election
