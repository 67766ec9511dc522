import GatedManager.Api.Error
import GatedManager.Election.Config
import GatedManager.Election.Record
import GatedManager.Time.Clock

/-!
# Electors

An elector campaigns for one lease. It remembers the record it saw last and since when, and judges
the lease of another holder by that: it has expired once the record has stood unchanged for the
lease duration on the elector's own clock.

An attempt reads the lease and then creates it, replaces it or leaves it alone. A replaced lease
keeps everything but its spec, its version in the store above all, so that the server refuses the
write when someone else was faster.
-/

namespace GatedManager.Election

open Api (ApiError Lease ObjectMeta)

/-- A record and the instant since which it has been seen unchanged. -/
structure Observed where
  record : Record
  since : Instant
deriving Repr, DecidableEq

structure Elector where
  identity : String
  config : Config
  observed : Option Observed := none
deriving Repr, DecidableEq

/-- Arithmetic that has no result. The process ends with its message. -/
inductive Crash
  | counterOverflow
  | instantOverflow
deriving Repr, DecidableEq

def Crash.message : Crash → String
  | counterOverflow => "attempt to add with overflow"
  | instantOverflow => "overflow when adding duration to instant"

/-- Why an attempt failed. -/
inductive AttemptError
  | api (error : ApiError)
  | badRecord
deriving Repr, DecidableEq

/-- What an attempt asks of the API. -/
inductive Request
  | get
  | create (lease : Lease)
  | replace (lease : Lease)

/-- An attempt that waits for the answer to its request. The clock reading is the time it will
write. -/
inductive Attempt
  | reading (clock : Timestamp)
  | creating (record : Record) (lease : Lease)
  | replacing (record : Record) (lease : Lease)

def Attempt.request : Attempt → Request
  | reading _ => .get
  | creating _ lease => .create lease
  | replacing _ lease => .replace lease

/-- The answer to a request: the lease, if there is one, or that a write was stored. -/
inductive Answer
  | read (result : Except ApiError (Option Lease))
  | written (result : Except ApiError Unit)

/-- How far an attempt has come: it waits for a further answer, or it knows whether this replica
holds the lease. -/
inductive Progress
  | waiting (attempt : Attempt)
  | finished (result : Except AttemptError Bool)

namespace Elector

/-- The memory after a record has been seen: the instant moves only when the record is new. -/
def remember (elector : Elector) (record : Record) (now : Instant) : Observed :=
  match elector.observed with
  | some seen => if seen.record = record then seen else ⟨record, now⟩
  | none => ⟨record, now⟩

/-- Takes note of a record, and tells whether it has stood for the lease duration. -/
def observe (elector : Elector) (record : Record) (now : Instant) :
    Except Crash (Bool × Elector) :=
  let seen := elector.remember record now
  match Instant.add? seen.since elector.config.leaseDuration with
  | none => .error .instantOverflow
  | some expiry => .ok (expiry ≤ now, { elector with observed := some seen })

/-- A new lease with a record. -/
def newLease? (elector : Elector) (record : Record) : Option Lease :=
  record.toLeaseSpec?.map fun spec =>
    { metadata :=
        { name := some elector.config.resourceName
          namespaceName := some elector.config.resourceNamespace }
      spec := some spec }

/-- A lease with a new record, all else being kept. -/
def renewedLease? (lease : Lease) (record : Record) : Option Lease :=
  record.toLeaseSpec?.map fun spec => { lease with spec := some spec }

/-- What follows when there is no lease: it is created. -/
def onAbsent (elector : Elector) (clock : Timestamp) : Progress :=
  let record := Record.first elector.identity clock elector.config.leaseDuration
  match elector.newLease? record with
  | none => .finished (.error .badRecord)
  | some lease => .waiting (.creating record lease)

/-- What follows when the lease was read: it is left alone while another holds it, and replaced
otherwise. -/
def onLease (elector : Elector) (clock : Timestamp) (lease : Lease) (now : Instant) :
    Except Crash (Elector × Progress) :=
  match Record.ofLease? lease with
  | none => .ok (elector, .finished (.error .badRecord))
  | some current =>
    match elector.observe current now with
    | .error crash => .error crash
    | .ok (expired, elector) =>
      match current.next? elector.identity clock elector.config.leaseDuration expired with
      | .error .transitions => .error .counterOverflow
      | .ok none => .ok (elector, .finished (.ok false))
      | .ok (some next) =>
        match renewedLease? lease next with
        | none => .ok (elector, .finished (.error .badRecord))
        | some lease => .ok (elector, .waiting (.replacing next lease))

/-- What follows when a write was answered. -/
def onWritten (elector : Elector) (record : Record) (result : Except ApiError Unit)
    (now : Instant) : Except Crash (Elector × Progress) :=
  match result with
  | .error error => .ok (elector, .finished (.error (.api error)))
  | .ok () =>
    match elector.observe record now with
    | .error crash => .error crash
    | .ok (_, elector) => .ok (elector, .finished (.ok true))

/-- One step of an attempt: the answer to its request has come at `now`. -/
def advance (elector : Elector) (attempt : Attempt) (answer : Answer) (now : Instant) :
    Except Crash (Elector × Progress) :=
  match attempt, answer with
  | .reading _, .read (.error error) => .ok (elector, .finished (.error (.api error)))
  | .reading clock, .read (.ok none) => .ok (elector, elector.onAbsent clock)
  | .reading clock, .read (.ok (some lease)) => elector.onLease clock lease now
  | .creating record _, .written result => elector.onWritten record result now
  | .replacing record _, .written result => elector.onWritten record result now
  | attempt, _ => .ok (elector, .waiting attempt)

end Elector

end GatedManager.Election
