import GatedManager.Api.Resource

/-!
# The version of a cluster

The `ClusterVersion` object reports the release that the cluster should run and the history of
its updates, the latest first.
-/

namespace GatedManager.Api

open Json (ofFields recordFields? required defaulted optional str? list?)

structure Release where
  version : String
  image : String
deriving Repr, DecidableEq, Inhabited

namespace Release

def empty : Release := ⟨"", ""⟩

def read? (j : Json) : Option Release := do
  match ← recordFields? ["version", "image"] j with
  | [version, image] => return ⟨← defaulted "" str? version, ← defaulted "" str? image⟩
  | _ => none

def toJson (release : Release) : Json :=
  ofFields [("version", some (.str release.version)), ("image", some (.str release.image))]

end Release

structure ClusterVersionSpec where
  clusterId : String
  channel : Option String
  desiredUpdate : Option Release
deriving Repr, DecidableEq

namespace ClusterVersionSpec

def fieldNames : List String := ["clusterID", "channel", "desiredUpdate"]

def read? (j : Json) : Option ClusterVersionSpec := do
  match ← recordFields? fieldNames j with
  | [clusterId, channel, desiredUpdate] =>
    return ⟨← defaulted "" str? clusterId, ← optional str? channel,
      ← optional Release.read? desiredUpdate⟩
  | _ => none

def toJson (spec : ClusterVersionSpec) : Json :=
  ofFields [("clusterID", some (.str spec.clusterId)),
    ("channel", spec.channel.map .str),
    ("desiredUpdate", spec.desiredUpdate.map Release.toJson)]

end ClusterVersionSpec

/-- One update of the cluster. -/
structure UpdateHistory where
  state : String
  version : String
  image : String
  started : Option Timestamp
  completed : Option Timestamp
deriving Repr, DecidableEq

namespace UpdateHistory

def fieldNames : List String := ["state", "version", "image", "startedTime", "completionTime"]

def read? (j : Json) : Option UpdateHistory := do
  match ← recordFields? fieldNames j with
  | [state, version, image, started, completed] =>
    return ⟨← defaulted "" str? state, ← defaulted "" str? version, ← defaulted "" str? image,
      ← optional time? started, ← optional time? completed⟩
  | _ => none

def toJson (entry : UpdateHistory) : Json :=
  ofFields [("state", some (.str entry.state)),
    ("version", some (.str entry.version)),
    ("image", some (.str entry.image)),
    ("startedTime", entry.started.map (ofTime .exact)),
    ("completionTime", entry.completed.map (ofTime .exact))]

end UpdateHistory

structure ClusterVersionStatus where
  desired : Release
  history : List UpdateHistory
deriving Repr, DecidableEq

namespace ClusterVersionStatus

def read? (j : Json) : Option ClusterVersionStatus := do
  match ← recordFields? ["desired", "history"] j with
  | [desired, history] =>
    return ⟨← defaulted Release.empty Release.read? desired,
      ← defaulted [] (list? UpdateHistory.read?) history⟩
  | _ => none

def toJson (status : ClusterVersionStatus) : Json :=
  ofFields [("desired", some status.desired.toJson),
    ("history", some (.arr (status.history.map UpdateHistory.toJson)))]

/-- The version of the desired release, else of the latest update; never an empty one. -/
def desiredVersion? (status : ClusterVersionStatus) : Option String :=
  if status.desired.version ≠ "" then some status.desired.version
  else (status.history.head?.map (·.version)).filter (· ≠ "")

end ClusterVersionStatus

abbrev ClusterVersion := Resource ClusterVersionSpec ClusterVersionStatus

namespace ClusterVersion

def type : TypeName := ⟨"config.openshift.io/v1", "ClusterVersion"⟩

/-- The name of the one object of this type. -/
def objectName : String := "version"

def read? : Json → Option ClusterVersion :=
  Resource.read? ClusterVersionSpec.read? ClusterVersionStatus.read?

def toJson : ClusterVersion → Json :=
  Resource.toJson type ClusterVersionSpec.toJson ClusterVersionStatus.toJson

def desiredVersion? (version : ClusterVersion) : Option String :=
  version.status.bind ClusterVersionStatus.desiredVersion?

end ClusterVersion

end GatedManager.Api
