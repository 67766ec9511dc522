import GatedManager.Election.Elector
import GatedManager.Proofs.Api.Lease

/-!
# Records on their way through a lease

A record and a lease spec have the same fields, and each is read from the written form of the
other. On the way times are cut to microseconds; a record that was read from a lease has such times
already and passes unchanged.
-/

namespace GatedManager.Election

open Api (Lease LeaseSpec time? ofTime)
open Json (recordFields? objectFields? optional str? int32?)

namespace Record

theorem read?_iff {j : Json} {record : Record}
    {holder duration acquire renew transitions : Option Json}
    (fields : recordFields? fieldNames j = some [holder, duration, acquire, renew, transitions]) :
    read? j = some record ↔
      optional str? holder = some record.holderIdentity ∧
      optional int32? duration = some record.leaseDurationSeconds ∧
      optional time? acquire = some record.acquireTime ∧
      optional time? renew = some record.renewTime ∧
      optional int32? transitions = some record.leaseTransitions := by
  rw [read?, fields, Option.bind_eq_bind, Option.bind_some]
  constructor
  · intro h
    obtain ⟨_, holder_eq, h⟩ := Option.bind_eq_some_iff.1 h
    obtain ⟨_, duration_eq, h⟩ := Option.bind_eq_some_iff.1 h
    obtain ⟨_, acquire_eq, h⟩ := Option.bind_eq_some_iff.1 h
    obtain ⟨_, renew_eq, h⟩ := Option.bind_eq_some_iff.1 h
    obtain ⟨_, transitions_eq, h⟩ := Option.bind_eq_some_iff.1 h
    obtain rfl := Option.some.inj h
    exact ⟨holder_eq, duration_eq, acquire_eq, renew_eq, transitions_eq⟩
  · rintro ⟨holder_eq, duration_eq, acquire_eq, renew_eq, transitions_eq⟩
    refine Option.bind_eq_some_iff.2 ⟨_, holder_eq, ?_⟩
    refine Option.bind_eq_some_iff.2 ⟨_, duration_eq, ?_⟩
    refine Option.bind_eq_some_iff.2 ⟨_, acquire_eq, ?_⟩
    refine Option.bind_eq_some_iff.2 ⟨_, renew_eq, ?_⟩
    refine Option.bind_eq_some_iff.2 ⟨_, transitions_eq, ?_⟩
    rfl

/-- The record in a spec. -/
def ofSpec (spec : LeaseSpec) : Record where
  holderIdentity := spec.holderIdentity
  leaseDurationSeconds := spec.leaseDurationSeconds
  acquireTime := spec.acquireTime
  renewTime := spec.renewTime
  leaseTransitions := spec.leaseTransitions

/-- The record with its times in whole microseconds, as it is written. -/
def cut (record : Record) : Record :=
  { record with
    acquireTime := record.acquireTime.map (·.cut .micros)
    renewTime := record.renewTime.map (·.cut .micros) }

/-- The times of the record have texts of their own. -/
structure IsTimely (record : Record) : Prop where
  acquireTime : ∀ t, record.acquireTime = some t → t.IsValid
  renewTime : ∀ t, record.renewTime = some t → t.IsValid

theorem isValid_of_optional {field : Option Json} {t : Timestamp}
    (h : optional time? field = some (some t)) : t.IsValid := by
  obtain ⟨j, read⟩ := Api.exists_of_optional h
  simp only [time?] at read
  split at read
  · exact Timestamp.isValid_of_read? read
  · cases read

theorem isTimely_of_readSpec {j : Json} {spec : LeaseSpec} (h : LeaseSpec.read? j = some spec) :
    (ofSpec spec).IsTimely := by
  obtain ⟨members, rfl⟩ := LeaseSpec.exists_members h
  obtain ⟨acquire_eq, -, -, -, renew_eq⟩ := (LeaseSpec.read?_iff rfl).1 h
  exact ⟨fun t is => isValid_of_optional (acquire_eq.trans (congrArg some is)),
    fun t is => isValid_of_optional (renew_eq.trans (congrArg some is))⟩

/-- What holds of a time after a change holds of the changed field. -/
theorem forall_map {t? : Option Timestamp} {change : Timestamp → Timestamp} {P : Timestamp → Prop}
    (h : ∀ t, t? = some t → P (change t)) : ∀ t, t?.map change = some t → P t := by
  intro t is
  obtain ⟨before, was, rfl⟩ := Option.map_eq_some_iff.1 is
  exact h before was

theorem IsTimely.cut {record : Record} (h : record.IsTimely) : record.cut.IsTimely where
  acquireTime := forall_map fun t is => (h.acquireTime t is).cut .micros
  renewTime := forall_map fun t is => (h.renewTime t is).cut .micros

/-- The record of a lease that was read: that of its spec, the empty one without a spec. -/
def inLease (lease : Lease) : Record := (lease.spec.map fun spec => (ofSpec spec).cut).getD {}

/-- A record is read from the written form of a spec, whose fields stand in another order. -/
theorem recordFields?_spec (spec : LeaseSpec) :
    recordFields? fieldNames spec.toJson = some [spec.holderIdentity.map .str,
      spec.leaseDurationSeconds.map .int, spec.acquireTime.map (ofTime .micros),
      spec.renewTime.map (ofTime .micros), spec.leaseTransitions.map .int] := by
  refine Json.objectFields?_ofFields_of_subset [
    ("holderIdentity", spec.holderIdentity.map .str),
    ("leaseDurationSeconds", spec.leaseDurationSeconds.map .int),
    ("acquireTime", spec.acquireTime.map (ofTime .micros)),
    ("renewTime", spec.renewTime.map (ofTime .micros)),
    ("leaseTransitions", spec.leaseTransitions.map .int)] ?_ ?_
  · exact (by decide : LeaseSpec.fieldNames.Nodup)
  · simp

theorem objectFields?_record (record : Record) :
    objectFields? LeaseSpec.fieldNames record.toJson =
      some [record.acquireTime.map (ofTime .micros),
      record.holderIdentity.map .str, record.leaseDurationSeconds.map .int,
      record.leaseTransitions.map .int, record.renewTime.map (ofTime .micros)] := by
  refine Json.objectFields?_ofFields_of_subset [
    ("acquireTime", record.acquireTime.map (ofTime .micros)),
    ("holderIdentity", record.holderIdentity.map .str),
    ("leaseDurationSeconds", record.leaseDurationSeconds.map .int),
    ("leaseTransitions", record.leaseTransitions.map .int),
    ("renewTime", record.renewTime.map (ofTime .micros))] ?_ ?_
  · exact (by decide : fieldNames.Nodup)
  · simp

theorem ofLease?_of_isRead {lease : Lease} (h : lease.IsRead) :
    ofLease? lease = some (inLease lease) := by
  cases is_spec : lease.spec with
  | none => simp [ofLease?, inLease, is_spec]
  | some spec =>
      obtain ⟨j, read⟩ := h.spec spec is_spec
      obtain ⟨members, rfl⟩ := LeaseSpec.exists_members read
      obtain ⟨acquire_eq, holder_eq, duration_eq, transitions_eq, renew_eq⟩ :=
        (LeaseSpec.read?_iff rfl).1 read
      rw [ofLease?, inLease, is_spec]
      exact (read?_iff (recordFields?_spec spec)).2
        ⟨Api.rewrites_str.optional_id _ _ holder_eq,
        (Api.rewrites_intIn _ _).optional_id _ _ duration_eq,
        (Api.rewrites_time .micros).optional _ _ acquire_eq,
        (Api.rewrites_time .micros).optional _ _ renew_eq,
        (Api.rewrites_intIn _ _).optional_id _ _ transitions_eq⟩

theorem optional_time {t? : Option Timestamp} (precision : Timestamp.Precision)
    (valid : ∀ t, t? = some t → t.IsValid) :
    optional time? (t?.map (ofTime precision)) = some (t?.map (·.cut precision)) := by
  cases t? with
  | none => rfl
  | some t =>
      have again := Timestamp.read?_render precision (valid t rfl)
      simp [Json.optional, ofTime, time?, again]

theorem optional_str {s? s'? : Option String} (h : optional str? (s?.map .str) = some s'?) :
    s'? = s? := by
  cases s? with
  | none => exact (Option.some.inj h).symm
  | some s => exact (Option.some.inj h).symm

theorem optional_int {n? n'? : Option Int} (h : optional int32? (n?.map .int) = some n'?) :
    n'? = n? := by
  cases n? with
  | none => exact (Option.some.inj h).symm
  | some n =>
      obtain ⟨n', read, rfl⟩ := Option.map_eq_some_iff.1 h
      simp only [int32?, Json.intIn?] at read
      split at read
      · exact read.symm
      · cases read

/-- When a record can be written, what is written is the record with its times cut. -/
theorem ofSpec_of_toLeaseSpec? {record : Record} {spec : LeaseSpec} (timely : record.IsTimely)
    (h : record.toLeaseSpec? = some spec) : ofSpec spec = record.cut := by
  obtain ⟨acquire_eq, holder_eq, duration_eq, transitions_eq, renew_eq⟩ :=
    (LeaseSpec.read?_iff (objectFields?_record record)).1 h
  rw [optional_time .micros timely.acquireTime] at acquire_eq
  rw [optional_time .micros timely.renewTime] at renew_eq
  simp only [ofSpec, cut, optional_str holder_eq, optional_int duration_eq,
    optional_int transitions_eq, ← Option.some.inj acquire_eq, ← Option.some.inj renew_eq]

theorem optional_int_of_mem {n? : Option Int}
    (fits : ∀ n, n? = some n → -2147483648 ≤ n ∧ n ≤ Json.int32Max) :
    optional int32? (n?.map .int) = some n? := by
  cases n? with
  | none => rfl
  | some n => simp [Json.optional, int32?, Json.intIn?, fits n rfl]

/-- A record can be written when its numbers fit 32 bits. -/
theorem exists_toLeaseSpec? {record : Record} (timely : record.IsTimely)
    (duration : ∀ n, record.leaseDurationSeconds = some n → -2147483648 ≤ n ∧ n ≤ Json.int32Max)
    (transitions : ∀ n, record.leaseTransitions = some n → -2147483648 ≤ n ∧ n ≤ Json.int32Max) :
    ∃ spec, record.toLeaseSpec? = some spec := by
  refine ⟨⟨record.acquireTime.map (·.cut .micros), record.holderIdentity,
    record.leaseDurationSeconds, record.leaseTransitions,
    record.renewTime.map (·.cut .micros)⟩, ?_⟩
  exact (LeaseSpec.read?_iff (objectFields?_record record)).2
    ⟨optional_time .micros timely.acquireTime, by cases record.holderIdentity <;> rfl,
    optional_int_of_mem duration, optional_int_of_mem transitions,
    optional_time .micros timely.renewTime⟩

theorem announcedSeconds_fits (d : Duration) :
    -2147483648 ≤ announcedSeconds d ∧ announcedSeconds d ≤ Json.int32Max := by
  simp only [announcedSeconds, Json.int32Max]
  omega

theorem isTimely_first (identity : String) {clock : Timestamp} (valid : clock.IsValid)
    (d : Duration) : (first identity clock d).IsTimely := by
  constructor
  · rintro _ ⟨⟩
    exact valid
  · rintro _ ⟨⟩
    exact valid

/-- A lease can always be created. -/
theorem exists_toLeaseSpec?_first (identity : String) {clock : Timestamp}
    (valid : clock.IsValid) (d : Duration) :
    ∃ spec, (first identity clock d).toLeaseSpec? = some spec := by
  refine exists_toLeaseSpec? (isTimely_first identity valid d) ?_ ?_
  · rintro _ ⟨⟩
    exact announcedSeconds_fits d
  · rintro _ ⟨⟩
    decide

@[simp]
theorem cut_cut (record : Record) : record.cut.cut = record.cut := by
  simp [cut, Function.comp_def]

theorem cut_inLease (lease : Lease) : (inLease lease).cut = inLease lease := by
  cases is_spec : lease.spec with
  | none => simp [inLease, is_spec, cut]
  | some spec => simp [inLease, is_spec]

theorem isTimely_inLease {lease : Lease} (h : lease.IsRead) : (inLease lease).IsTimely := by
  cases is_spec : lease.spec with
  | none =>
      rw [inLease, is_spec]
      exact ⟨nofun, nofun⟩
  | some spec =>
      obtain ⟨j, read⟩ := h.spec spec is_spec
      rw [inLease, is_spec]
      exact (isTimely_of_readSpec read).cut

end Record

/-- An elector can always create a lease that is not there. -/
theorem Elector.exists_onAbsent (elector : Elector) {clock : Timestamp} (valid : clock.IsValid) :
    ∃ record lease, elector.onAbsent clock = .waiting (.creating record lease) := by
  obtain ⟨spec, fits⟩ := Record.exists_toLeaseSpec?_first elector.identity valid
    elector.config.leaseDuration
  unfold Elector.onAbsent
  simp only
  split
  case h_1 absent =>
    rw [Elector.newLease?, fits] at absent
    cases absent
  case h_2 lease _ => exact ⟨_, lease, rfl⟩

end GatedManager.Election
