import GatedManager.Proofs.Election.Record
import GatedManager.Proofs.Time.Carry

/-!
# Records through a lease and back

Every record that the program can have is written into a lease spec and read from a lease with that
spec. What its times have below a microsecond gets lost on the way: it is cut off, also in a leap
second and in a year that has a sign. A time that runs beyond another second than the last one of a
minute comes back as one in the next second, since its text tells that one. A record that was read
from a lease has lost all that already and comes back as it is.
-/

namespace GatedManager.Election.Record

open Api (Lease LeaseSpec ObjectMeta ofTime)
open Json (optional int32?)

/-- A number of 32 bits. -/
def IsInt32 (n : Int) : Prop := -2147483648 ≤ n ∧ n ≤ Json.int32Max

/-- A record whose times have texts of their own, any of its fields being absent. -/
structure IsWritable (record : Record) : Prop extends record.IsTimely where
  leaseDurationSeconds : ∀ n, record.leaseDurationSeconds = some n → IsInt32 n
  leaseTransitions : ∀ n, record.leaseTransitions = some n → IsInt32 n

/-- A record as the program can have it, any of its fields being absent. -/
structure IsRepresentable (record : Record) : Prop where
  leaseDurationSeconds : ∀ n, record.leaseDurationSeconds = some n → IsInt32 n
  acquireTime : ∀ t, record.acquireTime = some t → t.IsRepresentable
  renewTime : ∀ t, record.renewTime = some t → t.IsRepresentable
  leaseTransitions : ∀ n, record.leaseTransitions = some n → IsInt32 n

/-- The record with its times in whole microseconds. -/
def truncateMicros (record : Record) : Record :=
  { record with
    acquireTime := record.acquireTime.map Timestamp.truncateMicros
    renewTime := record.renewTime.map Timestamp.truncateMicros }

/-- The record with what its times have beyond a second carried over to the next one, as their texts
tell it. -/
def carry (record : Record) : Record :=
  { record with
    acquireTime := record.acquireTime.map Timestamp.carry
    renewTime := record.renewTime.map Timestamp.carry }

theorem carry_of_isTimely {record : Record} (h : record.IsTimely) : record.carry = record := by
  have same : ∀ {t? : Option Timestamp}, (∀ t, t? = some t → t.IsValid) →
      t?.map Timestamp.carry = t? := by
    intro t? valid
    cases t? with
    | none => rfl
    | some t => exact congrArg some (Timestamp.carry_of_isValid (valid t rfl))
  rw [carry, same h.acquireTime, same h.renewTime]

theorem IsRepresentable.isWritable_carry {record : Record} (h : record.IsRepresentable) :
    record.carry.IsWritable where
  acquireTime := forall_map fun t is => (h.acquireTime t is).isValid_carry
  renewTime := forall_map fun t is => (h.renewTime t is).isValid_carry
  leaseDurationSeconds := h.leaseDurationSeconds
  leaseTransitions := h.leaseTransitions

/-- What is written does not tell what was carried over. -/
theorem IsRepresentable.toLeaseSpec?_carry {record : Record} (h : record.IsRepresentable) :
    record.carry.toLeaseSpec? = record.toLeaseSpec? := by
  have same : ∀ {t? : Option Timestamp}, (∀ t, t? = some t → t.IsRepresentable) →
      (t?.map Timestamp.carry).map (ofTime .micros) = t?.map (ofTime .micros) := by
    intro t? representable
    cases t? with
    | none => rfl
    | some t => simp [ofTime, (representable t rfl).render_carry .micros]
  simp only [toLeaseSpec?, toJson, carry, same h.acquireTime, same h.renewTime]

theorem cut_eq_truncateMicros (record : Record) : record.cut = record.truncateMicros := by
  simp only [cut, truncateMicros, Timestamp.cut_micros]

/-- The record of a lease depends on its spec alone, which was written from a record. -/
theorem ofLease?_of_toLeaseSpec? {record : Record} {spec : LeaseSpec} (timely : record.IsTimely)
    (written : record.toLeaseSpec? = some spec) (md : ObjectMeta) :
    ofLease? ⟨md, some spec⟩ = some record.truncateMicros := by
  have isRead : Lease.IsRead ⟨{}, some spec⟩ := by
    refine ⟨⟨.obj [], rfl⟩, ?_⟩
    rintro _ ⟨⟩
    exact ⟨_, written⟩
  calc ofLease? ⟨md, some spec⟩ = ofLease? ⟨{}, some spec⟩ := rfl
    _ = some (ofSpec spec).cut := ofLease?_of_isRead isRead
    _ = some record.truncateMicros := by
      rw [ofSpec_of_toLeaseSpec? timely written, cut_cut, cut_eq_truncateMicros]

theorem isInt32_of_optional {field : Option Json} {n : Int}
    (h : optional int32? field = some (some n)) : IsInt32 n := by
  obtain ⟨j, read⟩ := Api.exists_of_optional h
  simp only [int32?, Json.intIn?] at read
  split at read
  · split at read
    · next bounds =>
      cases read
      exact bounds
    · cases read
  · cases read

theorem isWritable_of_readSpec {j : Json} {spec : LeaseSpec}
    (h : LeaseSpec.read? j = some spec) : (ofSpec spec).cut.IsWritable := by
  refine ⟨(isTimely_of_readSpec h).cut, ?_, ?_⟩
  all_goals
    obtain ⟨members, rfl⟩ := LeaseSpec.exists_members h
    obtain ⟨-, -, duration_eq, transitions_eq, -⟩ := (LeaseSpec.read?_iff rfl).1 h
    intro n is
  · exact isInt32_of_optional (duration_eq.trans (congrArg some is))
  · exact isInt32_of_optional (transitions_eq.trans (congrArg some is))

theorem isWritable_inLease {lease : Lease} (h : lease.IsRead) :
    (inLease lease).IsWritable := by
  cases is_spec : lease.spec with
  | none =>
      rw [inLease, is_spec]
      refine ⟨⟨?_, ?_⟩, ?_, ?_⟩
      all_goals rintro _ ⟨⟩
  | some spec =>
      obtain ⟨j, read⟩ := h.spec spec is_spec
      rw [inLease, is_spec]
      exact isWritable_of_readSpec read

theorem IsWritable.exists_spec {record : Record} (h : record.IsWritable) :
    ∃ spec, record.toLeaseSpec? = some spec ∧
      ∀ md, ofLease? ⟨md, some spec⟩ = some record.truncateMicros := by
  obtain ⟨spec, written⟩ := exists_toLeaseSpec? h.toIsTimely h.leaseDurationSeconds
    h.leaseTransitions
  exact ⟨spec, written, ofLease?_of_toLeaseSpec? h.toIsTimely written⟩

theorem IsRepresentable.exists_spec {record : Record} (h : record.IsRepresentable) :
    ∃ spec, record.toLeaseSpec? = some spec ∧
      ∀ md, ofLease? ⟨md, some spec⟩ = some record.carry.truncateMicros :=
  h.toLeaseSpec?_carry ▸ h.isWritable_carry.exists_spec

/-- A lease carries every record. What it loses lies below a microsecond, unless a time runs beyond
a second that is not the last one of its minute: that is carried over to the next second. Every
lease that can be read has a record, and that one loses nothing when it is written and read
again. -/
theorem only_submicros_lost :
    (∀ record : Record, record.IsRepresentable →
      ∃ spec, record.toLeaseSpec? = some spec ∧ ∀ md,
        ofLease? ⟨md, some spec⟩ = some record.carry.truncateMicros ∧
        (record.IsTimely → ofLease? ⟨md, some spec⟩ = some record.truncateMicros)) ∧
    ∀ j lease, Lease.read? j = some lease →
      ∃ record, ofLease? lease = some record ∧
        ∃ spec, record.toLeaseSpec? = some spec ∧
          ∀ md, ofLease? ⟨md, some spec⟩ = some record := by
  refine ⟨?_, ?_⟩
  · intro record h
    obtain ⟨spec, written, back⟩ := h.exists_spec
    exact ⟨spec, written, fun md => ⟨back md, fun timely => carry_of_isTimely timely ▸ back md⟩⟩
  · intro j lease read
    have isRead := Lease.isRead_of_read? read
    obtain ⟨spec, written, back⟩ := (isWritable_inLease isRead).exists_spec
    rw [← cut_eq_truncateMicros, cut_inLease] at back
    exact ⟨inLease lease, ofLease?_of_isRead isRead, spec, written, back⟩

/-- A record whose times are the last nanosecond of a leap second and one in a year before the
year 0. -/
def extreme : Record where
  leaseDurationSeconds := some (-2147483648)
  acquireTime := some ⟨-62198755201, 999999999⟩
  renewTime := some ⟨1483228799, 1999999999⟩
  leaseTransitions := some 2147483647

/-- The lease of another program, its times in another form and with more decimals. -/
def foreignLease : Json :=
  .obj [("metadata", .obj [("name", .str "manager-leader")]),
    ("spec", .obj [("holderIdentity", .str "pod-1"),
      ("renewTime", .str "2016-12-31t23:59:60.1234567+00:00")])]

theorem extreme_loses_submicros :
    extreme.IsRepresentable ∧ extreme.IsTimely ∧
    (∃ spec, extreme.toLeaseSpec? = some spec ∧
      ∀ md, ofLease? ⟨md, some spec⟩ = some {
        extreme with
        acquireTime := some ⟨-62198755201, 999999000⟩
        renewTime := some ⟨1483228799, 1999999000⟩ }) ∧
    ∃ lease record spec, Lease.read? foreignLease = some lease ∧
      ofLease? lease = some record ∧ record.renewTime = some ⟨1483228799, 1123456000⟩ ∧
      record.toLeaseSpec? = some spec ∧ ∀ md, ofLease? ⟨md, some spec⟩ = some record := by
  have timely : extreme.IsTimely := by
    refine ⟨?_, ?_⟩
    · rintro _ ⟨⟩
      exact ⟨by decide, by decide, by decide⟩
    · rintro _ ⟨⟩
      exact ⟨by decide, by decide, by decide⟩
  have representable : extreme.IsRepresentable := by
    refine ⟨?_, fun t is => (timely.acquireTime t is).isRepresentable,
      fun t is => (timely.renewTime t is).isRepresentable, ?_⟩
    · rintro _ ⟨⟩
      exact ⟨by decide, by decide⟩
    · rintro _ ⟨⟩
      exact ⟨by decide, by decide⟩
  have read : Lease.read? foreignLease = some _ := rfl
  obtain ⟨spec, written, back⟩ := only_submicros_lost.1 _ representable
  obtain ⟨record, readable, spec', written', back'⟩ := only_submicros_lost.2 _ _ read
  have renewed : record.renewTime = some ⟨1483228799, 1123456000⟩ := by
    cases readable.symm.trans (rfl : ofLease? _ = some _)
    rfl
  exact ⟨representable, timely, ⟨spec, written, fun md => (back md).2 timely⟩, _, record, spec',
    read, readable, renewed, written', back'⟩

/-- A record that was renewed a third of a second beyond another whole one. -/
def beyond : Record where
  renewTime := some ⟨4, 1333333333⟩

/-- The renewal comes back in the next second, so that not only decimals are lost. -/
theorem beyond_is_carried :
    beyond.IsRepresentable ∧ ∃ spec, beyond.toLeaseSpec? = some spec ∧
      ∀ md, ofLease? ⟨md, some spec⟩ = some { renewTime := some ⟨5, 333333000⟩ } ∧
        ofLease? ⟨md, some spec⟩ ≠ some beyond.truncateMicros := by
  have representable : beyond.IsRepresentable := by
    refine ⟨nofun, nofun, ?_, nofun⟩
    rintro _ ⟨⟩
    exact ⟨by decide, by decide⟩
  obtain ⟨spec, written, back⟩ := representable.exists_spec
  have carried : beyond.carry.truncateMicros = { renewTime := some ⟨5, 333333000⟩ } := rfl
  refine ⟨representable, spec, written, fun md => ⟨carried ▸ back md, ?_⟩⟩
  rw [back md, carried]
  decide

end GatedManager.Election.Record
