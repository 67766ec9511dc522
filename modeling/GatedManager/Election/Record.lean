import GatedManager.Api.Lease

/-!
# Election records

The record is what the replicas of an election tell each other through the spec of a lease. It
passes through the written form of the lease, in which times have six decimals, so a record that
was read back has lost what lay below a microsecond.
-/

namespace GatedManager.Election

open Api (Lease LeaseSpec time? ofTime)
open Json (ofFields recordFields? optional str? int32?)

/-- Who holds the lease, for how long, since when, and how often the holder has changed. -/
structure Record where
  holderIdentity : Option String := none
  leaseDurationSeconds : Option Int := none
  acquireTime : Option Timestamp := none
  renewTime : Option Timestamp := none
  leaseTransitions : Option Int := none
deriving Repr, DecidableEq, Inhabited

/-- The counter of holder changes has no next value. -/
inductive CounterOverflow
  | transitions
deriving Repr, DecidableEq

namespace Record

def fieldNames : List String :=
  ["holderIdentity", "leaseDurationSeconds", "acquireTime", "renewTime", "leaseTransitions"]

def read? (j : Json) : Option Record := do
  match ← recordFields? fieldNames j with
  | [holderIdentity, leaseDurationSeconds, acquireTime, renewTime, leaseTransitions] =>
    return ⟨← optional str? holderIdentity, ← optional int32? leaseDurationSeconds,
      ← optional time? acquireTime, ← optional time? renewTime,
      ← optional int32? leaseTransitions⟩
  | _ => none

def toJson (record : Record) : Json :=
  ofFields [("holderIdentity", record.holderIdentity.map .str),
    ("leaseDurationSeconds", record.leaseDurationSeconds.map .int),
    ("acquireTime", record.acquireTime.map (ofTime .micros)),
    ("renewTime", record.renewTime.map (ofTime .micros)),
    ("leaseTransitions", record.leaseTransitions.map .int)]

/-- The record of a lease: that of its written spec, the empty one when there is no spec. -/
def ofLease? (lease : Lease) : Option Record :=
  match lease.spec with
  | some spec => read? spec.toJson
  | none => some {}

/-- The lease spec with the written form of the record. -/
def toLeaseSpec? (record : Record) : Option LeaseSpec := LeaseSpec.read? record.toJson

/-- The holder, the empty text when there is none. -/
def holder (record : Record) : String := record.holderIdentity.getD ""

/-- Whole seconds as far as the field can hold them. -/
def announcedSeconds (leaseDuration : Duration) : Int :=
  min (leaseDuration.seconds : Int) Json.int32Max

/-- The record with which `identity` creates a lease at `now`. -/
def first (identity : String) (now : Timestamp) (leaseDuration : Duration) : Record where
  holderIdentity := some identity
  leaseDurationSeconds := some (announcedSeconds leaseDuration)
  acquireTime := some now
  renewTime := some now
  leaseTransitions := some 0

/-- The record that `identity` should write at `now`, `none` while the lease of another holder has
to be respected. A holder that stays keeps its start and the counter; a new one starts now and
counts one change more. -/
def next? (record : Record) (identity : String) (now : Timestamp) (leaseDuration : Duration)
    (expired : Bool) : Except CounterOverflow (Option Record) :=
  if record.holder ≠ "" ∧ record.holder ≠ identity ∧ !expired then .ok none
  else if record.holder = identity then
    .ok (some {
      holderIdentity := some identity
      leaseDurationSeconds := some (announcedSeconds leaseDuration)
      acquireTime := some (record.acquireTime.getD now)
      renewTime := some now
      leaseTransitions := some (record.leaseTransitions.getD 0) })
  else
    let transitions := record.leaseTransitions.getD 0 + 1
    if transitions > Json.int32Max then .error .transitions
    else .ok (some {
      holderIdentity := some identity
      leaseDurationSeconds := some (announcedSeconds leaseDuration)
      acquireTime := some now
      renewTime := some now
      leaseTransitions := some transitions })

end Record

end GatedManager.Election
