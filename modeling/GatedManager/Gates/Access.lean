import GatedManager.Api.ClusterVersion
import GatedManager.Gates.Error
import GatedManager.Gates.Snapshot

/-!
# Access to the feature gates

An accessor publishes the snapshot for the version of this process. A process that does not know
its own version takes the one that the cluster should run. Each look at the cluster may publish a
snapshot; once one is published there always is one.
-/

namespace GatedManager.Gates

open Api (ClusterVersion FeatureGate)

structure Access where
  desiredVersion : String
  /-- The version of a process that does not know its own. -/
  missingVersion : String
  current : Option Snapshot := none
deriving Repr, DecidableEq

/-- What a look at the cluster has led to. -/
inductive SyncOutcome
  /-- Something is not there yet. -/
  | pending
  /-- The first snapshot was published. -/
  | initialized
  /-- A snapshot with the same gates was published. -/
  | unchanged
  /-- A snapshot with other gates was published. -/
  | changed (change : Change)
deriving Repr, DecidableEq

namespace Access

def isObserved (a : Access) : Bool := a.current.isSome

def snapshot (a : Access) : Except GateError Snapshot :=
  match a.current with
  | some s => .ok s
  | none => .error .notObserved

/-- The version whose gates count: that of the process, else that of the cluster. -/
def effectiveVersion? (a : Access) (clusterVersion : Option ClusterVersion) : Option String :=
  if a.desiredVersion = a.missingVersion then
    clusterVersion.bind ClusterVersion.desiredVersion?
  else some a.desiredVersion

/-- Publishes a snapshot. -/
def publish (a : Access) (s : Snapshot) : SyncOutcome × Access :=
  let outcome := match a.current with
    | none => SyncOutcome.initialized
    | some previous => if previous.sameGates s then .unchanged else .changed ⟨previous, s⟩
  (outcome, { a with current := some s })

/-- One look at the cluster: the gates listed for the effective version are published. -/
def sync (a : Access) (clusterVersion : Option ClusterVersion) (featureGate : Option FeatureGate) :
    Except GateError SyncOutcome × Access :=
  match a.effectiveVersion? clusterVersion, featureGate with
  | some version, some gate =>
    match FeatureGate.detailsFor? gate version with
    | none => (.error (.missingVersion version), a)
    | some details =>
      let (outcome, a) := a.publish (.ofDetails details)
      (.ok outcome, a)
  | _, _ => (.ok .pending, a)

end Access

/-- The version of a process that does not know its own. -/
def unknownVersion : String := "0.0.1-snapshot"

end GatedManager.Gates
