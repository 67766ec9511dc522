import GatedManager.Proofs.Election.Succession
import Mathlib.Data.List.Nodup

/-!
# Chronicles of a lease

A chronicle lists the leases that a server has stored, the latest first, with the instant, the
version and the writer of each. It begins with a lease that was there or with one that an elector
created, and goes on with leases that electors wrote over the latest one. What an elector writes it
has decided on before, when it had read the entry it replaces and perhaps knew that the record of
that entry had stood long enough.

Two facts hold in every chronicle. As long as no renew time is used twice, a lease that another
holder has is replaced only after it has stood for the lease duration. And each lease follows the
one before it: nothing of it is lost.
-/

namespace GatedManager.Election

open Api (Lease)
open Simulation (LeaseServer)

/-- A stored lease. The writer is missing when the lease was there from the start. -/
structure Entry (ι : Type) where
  storedAt : Instant
  version : Nat
  writer : Option ι
  lease : Json

namespace Entry

variable {ι : Type}

def lease? (entry : Entry ι) : Option Lease := Lease.read? entry.lease

def record? (entry : Entry ι) : Option Record := entry.lease?.bind Record.ofLease?

def renewTime? (entry : Entry ι) : Option Timestamp := entry.record?.bind (·.renewTime)

/-- The holder, the empty text when there is none. -/
def holder (entry : Entry ι) : String := (entry.record?.map Record.holder).getD ""

/-- A lease that someone else holds is replaced only after it has stood for the lease duration of
the elector that replaces it. -/
def Respects (identity : ι → String) (config : ι → Config) (after before : Entry ι) : Prop :=
  ∀ i, after.writer = some i → before.holder ≠ "" → before.holder ≠ identity i →
    before.storedAt + (config i).leaseDuration.nanos ≤ after.storedAt

/-- A lease has the record that its writer had to write over the lease before, and the metadata of
that lease but for the version. Times in metadata are written in whole seconds. -/
def Follows (identity : ι → String) (config : ι → Config) (after before : Entry ι) : Prop :=
  ∃ i old new current next, after.writer = some i ∧
    before.lease? = some old ∧ after.lease? = some new ∧
    Record.ofLease? old = some current ∧ Record.ofLease? new = some next ∧
    Record.Follows (identity i) (config i).leaseDuration current next ∧
    new.metadata =
      { old.metadata.wholeSeconds with resourceVersion := new.metadata.resourceVersion }

/-- How often the holder changes in a list of entries. -/
def changes : List (Entry ι) → Nat
  | after :: before :: back =>
    changes (before :: back) + if before.holder = after.holder then 0 else 1
  | _ => 0

end Entry

variable {ι : Type} (identity : ι → String) (config : ι → Config)

/-- The elector `i` has decided, not later than `now`, to write a lease over the one of an entry:
it has read the entry, and if it does not hold the lease and took it for expired, an entry with the
same record had been stored a lease duration before. -/
inductive Decision (history : List (Entry ι)) (now : Instant) (i : ι) (entry : Entry ι) :
    Lease → Prop
  | intro {read lease : Lease} {current next : Record} {clock : Timestamp} {expired : Bool}
      (decoded : entry.lease? = some read) (readable : Record.ofLease? read = some current)
      (valid : clock.IsValid)
      (due : current.next? (identity i) clock (config i).leaseDuration expired = .ok (some next))
      (written : Elector.renewedLease? read next = some lease)
      (expiry : expired → current.holder ≠ identity i → ∃ seen ∈ history,
        seen.record? = some current ∧ seen.storedAt + (config i).leaseDuration.nanos ≤ now) :
      Decision history now i entry lease

/-- The elector `i` with nothing seen yet. -/
def candidate (i : ι) : Elector := { identity := identity i, config := config i }

/-- The lists of stored leases that can come about, the latest lease first. -/
inductive Chronicle : List (Entry ι) → Prop
  | empty : Chronicle []
  /-- A lease was there. -/
  | found {now : Instant} {version : Nat} {lease : Json}
      (named : LeaseServer.versionOf lease = some (.str (toString version))) :
      Chronicle [⟨now, version, none, lease⟩]
  | created {now : Instant} {version : Nat} {i : ι} {lease : Lease} {clock : Timestamp}
      (valid : clock.IsValid)
      (written : (candidate identity config i).newLease?
        (Record.first (identity i) clock (config i).leaseDuration) = some lease) :
      Chronicle [⟨now, version, some i, LeaseServer.setVersion version lease.toJson⟩]
  | replaced {before : Entry ι} {back : List (Entry ι)} {now : Instant} {version : Nat} {i : ι}
      {lease : Lease} (past : Chronicle (before :: back)) (later : before.storedAt ≤ now)
      (fresh : before.version < version)
      (decision : Decision identity config (before :: back) now i before lease) :
      Chronicle (⟨now, version, some i, LeaseServer.setVersion version lease.toJson⟩ ::
        before :: back)

variable {identity config}

theorem Decision.mono {history history' : List (Entry ι)} {now now' : Instant} {i : ι}
    {entry : Entry ι} {lease : Lease} (h : Decision identity config history now i entry lease)
    (grows : history ⊆ history') (later : now ≤ now') :
    Decision identity config history' now' i entry lease := by
  obtain ⟨decoded, readable, valid, due, written, expiry⟩ := h
  refine .intro decoded readable valid due written ?_
  intro expired other
  obtain ⟨seen, known, same, stood⟩ := expiry expired other
  exact ⟨seen, grows known, same, Nat.le_trans stood later⟩

/-- A lease that was decided on keeps the metadata of the entry it is to replace. -/
theorem Decision.metadata {history : List (Entry ι)} {now : Instant} {i : ι} {entry : Entry ι}
    {lease : Lease} (h : Decision identity config history now i entry lease) :
    ∃ read, entry.lease? = some read ∧ lease.metadata = read.metadata := by
  obtain ⟨decoded, -, -, -, written, -⟩ := h
  obtain ⟨spec, -, rfl⟩ := Option.map_eq_some_iff.1 written
  exact ⟨_, decoded, rfl⟩

namespace Chronicle

variable {history : List (Entry ι)}

/-- Each entry names its own version. -/
theorem named (h : Chronicle identity config history) :
    ∀ entry ∈ history,
      LeaseServer.versionOf entry.lease = some (.str (toString entry.version)) := by
  have stored : ∀ {lease : Lease} {version : Nat},
      LeaseServer.versionOf (LeaseServer.setVersion version lease.toJson) =
        some (.str (toString version)) :=
    fun {lease} => LeaseServer.versionOf_setVersion (LeaseServer.tidy_toJson lease)
  induction h with
  | empty => exact fun _ => nofun
  | found named => simpa using named
  | created => simpa using stored
  | replaced _ _ _ _ ih => exact List.forall_mem_cons.2 ⟨stored, ih⟩

/-- Versions ascend. -/
theorem ascending (h : Chronicle identity config history) :
    history.Pairwise fun after before => before.version < after.version := by
  induction h with
  | empty => exact .nil
  | found => exact List.pairwise_singleton _ _
  | created => exact List.pairwise_singleton _ _
  | replaced _ _ fresh _ ih =>
      refine List.pairwise_cons.2 ⟨?_, ih⟩
      refine List.forall_mem_cons.2 ⟨fresh, ?_⟩
      intro entry earlier
      exact Nat.lt_trans ((List.pairwise_cons.1 ih).1 entry earlier) fresh

/-- An entry is known by the version that it names. -/
theorem eq_of_version (h : Chronicle identity config history) {entry other : Entry ι}
    (he : entry ∈ history) (ho : other ∈ history)
    (same : toString entry.version = toString other.version) : entry = other := by
  have distinct : (history.map Entry.version).Nodup :=
    List.pairwise_map.2 (h.ascending.imp fun less => Nat.ne_of_gt less)
  exact List.inj_on_of_nodup_map distinct he ho (Text.eq_of_toString_eq same)

/-! ### No premature takeover -/

/-- An elector that replaces the lease of another holder took it for expired, so an entry with the
same record had stood long enough. It has the same renew time and is therefore the same entry. -/
theorem respects (h : Chronicle identity config history)
    (distinct : (history.map Entry.renewTime?).Nodup) :
    history.IsChain (Entry.Respects identity config) := by
  induction h with
  | empty => exact .nil
  | found => exact .singleton _
  | created => exact .singleton _
  | @replaced before back now version i lease _ _ _ decision ih =>
      refine .cons_cons ?_ (ih (List.nodup_cons.1 distinct).2)
      rintro _ ⟨⟩ held other
      obtain @⟨read, _, current, next, clock, expired, decoded, readable, -, due, -, expiry⟩ :=
        decision
      have record_eq : before.record? = some current := by
        rw [Entry.record?, decoded]
        exact readable
      have holder_eq : before.holder = current.holder := by
        rw [Entry.holder, record_eq]
        rfl
      rw [holder_eq] at held other
      obtain ⟨seen, known, same, stood⟩ :=
        expiry (Record.expired_of_next? due held other) other
      obtain rfl : seen = before := by
        refine List.inj_on_of_nodup_map (List.nodup_cons.1 distinct).2 known
          List.mem_cons_self ?_
        rw [Entry.renewTime?, Entry.renewTime?, same, record_eq]
      exact stood

/-! ### Nothing is lost -/

theorem follows (h : Chronicle identity config history) :
    history.IsChain (Entry.Follows identity config) := by
  induction h with
  | empty => exact .nil
  | found => exact .singleton _
  | created => exact .singleton _
  | @replaced before back now version i lease _ _ _ decision ih =>
      refine .cons_cons ?_ ih
      obtain @⟨read, _, current, next, clock, expired, decoded, readable, valid, due, written, -⟩ :=
        decision
      have known := Lease.isRead_of_read? decoded
      obtain rfl := Option.some.inj ((Record.ofLease?_of_isRead known).symm.trans readable)
      have timely := Record.isTimely_of_next? (Record.isTimely_inLease known) valid due
      obtain ⟨stored, stored_eq, metadata_eq, record_eq⟩ :=
        Elector.read?_renewed known timely written version
      refine ⟨i, read, stored, Record.inLease read, next.cut, rfl, decoded, stored_eq, readable,
        record_eq, Record.follows_of_next? (Record.cut_inLease read) due, ?_⟩
      rw [metadata_eq]

/-- The metadata of the first lease is written in whole seconds when an elector has written it. -/
theorem whole (h : Chronicle identity config history) {oldest : Entry ι}
    (is_last : history.getLast? = some oldest) (written : oldest.writer.isSome) :
    ∀ first, oldest.lease? = some first → first.metadata.wholeSeconds = first.metadata := by
  induction h with
  | empty => cases is_last
  | found =>
      cases is_last
      cases written
  | @created now version i lease clock valid new =>
      cases is_last
      intro first decoded
      have timely := Record.isTimely_first (identity i) valid (config i).leaseDuration
      obtain ⟨stored, stored_eq, metadata_eq, -⟩ := Elector.read?_new timely new version
      obtain rfl := Option.some.inj (decoded.symm.trans stored_eq)
      rw [metadata_eq]
      rfl
  | replaced _ _ _ _ ih =>
      rw [List.getLast?_cons_cons] at is_last
      exact ih is_last

end Chronicle

namespace Entry

variable {after before newest oldest : Entry ι}

/-- One replacement counts its change of the holder. -/
theorem Follows.counter {current : Record} {n : Int}
    (h : Entry.Follows identity config after before) (record_eq : before.record? = some current)
    (counted : current.leaseTransitions = some n) :
    ∃ next, after.record? = some next ∧
      next.leaseTransitions = some (n + if before.holder = after.holder then 0 else 1) := by
  obtain ⟨i, old, new, current', next, -, old_eq, new_eq, current_eq, next_eq, prescribed, -⟩ := h
  have before_eq : before.record? = some current' := by
    rw [Entry.record?, old_eq]
    exact current_eq
  have after_eq : after.record? = some next := by
    rw [Entry.record?, new_eq]
    exact next_eq
  obtain rfl := Option.some.inj (before_eq.symm.trans record_eq)
  refine ⟨next, after_eq, ?_⟩
  simp only [Entry.holder, before_eq, after_eq, Option.map_some, Option.getD_some]
  split
  case isTrue same => simpa [counted] using (prescribed.kept same).2
  case isFalse different => simpa [counted] using (prescribed.changed different).2

/-- One replacement keeps metadata in whole seconds but for the version. -/
theorem Follows.metadata {first old : Lease} (h : Entry.Follows identity config after before)
    (old_eq : before.lease? = some old) (whole : first.metadata.wholeSeconds = first.metadata)
    (same : old.metadata =
      { first.metadata with resourceVersion := old.metadata.resourceVersion }) :
    ∃ new, after.lease? = some new ∧
      new.metadata = { first.metadata with resourceVersion := new.metadata.resourceVersion } := by
  obtain ⟨i, old', new, -, -, -, old_eq', new_eq, -, -, -, metadata_eq⟩ := h
  obtain rfl := Option.some.inj (old_eq'.symm.trans old_eq)
  have kept : old'.metadata.wholeSeconds =
      { first.metadata.wholeSeconds with resourceVersion := old'.metadata.resourceVersion } := by
    rw [same]
    rfl
  refine ⟨new, new_eq, ?_⟩
  rw [metadata_eq, kept, whole]

end Entry

end GatedManager.Election
