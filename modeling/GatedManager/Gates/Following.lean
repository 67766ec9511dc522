import GatedManager.Gates.Access
import GatedManager.Watch.Collection
import GatedManager.Watch.Wire

/-!
# Following the cluster

Two reflectors keep the cluster version and the feature gates. Whenever one of them has taken an
event, and at every resync, the accessor is woken: it reads the two stores one after the other and
looks at what it has read. Wake-ups do not add up. One that comes while the accessor is busy is
kept, and the accessor takes it instead of waiting.
-/

namespace GatedManager.Gates

open Api (ClusterVersion FeatureGate)
open Watch (Collection Event Form ObjectKey Reflector Selection Store)

/-- Where the accessor is in its loop. -/
inductive LoopStage
  /-- It has not begun, or begins anew. -/
  | ready
  | waiting
  | woken
  | readVersion (clusterVersion : Option ClusterVersion)
  | readBoth (clusterVersion : Option ClusterVersion) (featureGate : Option FeatureGate)

structure Following where
  access : Access
  clusterVersions : Reflector ClusterVersion := {}
  featureGates : Reflector FeatureGate := {}
  /-- Whether a wake-up is kept. -/
  woken : Bool := false
  stage : LoopStage := .ready
  /-- The changes that were handled, the first one first. -/
  changes : List Change := []

/-- How often the informers wake the accessor without any news. -/
def resyncPeriod : Duration := .ofSeconds (10 * 60)

/-! ### What is watched -/

/-- The one object of a kind in the cluster that has a certain name. -/
def singleton (kind : ResourceKind) (name : String) : Collection :=
  ⟨kind, none, { fields := some ("metadata.name=" ++ name) }⟩

def clusterVersionCollection : Collection := singleton .clusterVersion ClusterVersion.objectName

def featureGateCollection : Collection := singleton .featureGate FeatureGate.objectName

def clusterVersionWire : Form ClusterVersion := ⟨ClusterVersion.read?, (·.metadata)⟩

def featureGateWire : Form FeatureGate := ⟨FeatureGate.read?, (·.metadata)⟩

/-- The key of an object of the cluster. -/
def clusterKey (name : String) : ObjectKey := ⟨none, name⟩

namespace Following

/-- An event for the cluster version. -/
def onClusterVersion (f : Following) (event : Event ClusterVersion) : Following :=
  { f with clusterVersions := f.clusterVersions.step event }

/-- An event for the feature gates. -/
def onFeatureGate (f : Following) (event : Event FeatureGate) : Following :=
  { f with featureGates := f.featureGates.step event }

/-- The accessor is to be woken: if it does not wait, the wake-up is kept. -/
def wake (f : Following) : Following :=
  match f.stage with
  | .waiting => { f with stage := .woken }
  | _ => { f with woken := true }

def clusterVersion? (f : Following) : Option ClusterVersion :=
  f.clusterVersions.store.get? (clusterKey ClusterVersion.objectName)

def featureGate? (f : Following) : Option FeatureGate :=
  f.featureGates.store.get? (clusterKey FeatureGate.objectName)

/-- The accessor looks at what it has read. -/
def look (f : Following) (clusterVersion : Option ClusterVersion)
    (featureGate : Option FeatureGate) : Following :=
  let (outcome, access) := f.access.sync clusterVersion featureGate
  let changes := match outcome with
    | .ok (.changed change) => f.changes ++ [change]
    | _ => f.changes
  { f with access := access, stage := .ready, changes := changes }

/-- One step of the accessor; one that waits stays where it is until it is woken. -/
def step (f : Following) : Following :=
  match f.stage with
  | .ready =>
    if f.woken then { f with stage := .woken, woken := false } else { f with stage := .waiting }
  | .waiting => f
  | .woken => { f with stage := .readVersion f.clusterVersion? }
  | .readVersion clusterVersion => { f with stage := .readBoth clusterVersion f.featureGate? }
  | .readBoth clusterVersion featureGate => f.look clusterVersion featureGate

/-- The accessor takes a wake-up if there is one, reads both stores, looks at them, and waits. -/
def turn (f : Following) : Following := f.step.step.step.step.step

end Following

end GatedManager.Gates
