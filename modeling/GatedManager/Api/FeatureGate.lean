import GatedManager.Api.Resource
import GatedManager.Text.Quoted

/-!
# Feature gates of a cluster

The `FeatureGate` object selects a feature set. Its status lists, for each release version in the
cluster, the gates that are enabled and disabled.
-/

namespace GatedManager.Api

open Json (ofFields recordFields? required defaulted optional str? list?)

/-- A selection of feature gates. -/
inductive FeatureSet
  | standard
  | techPreview
  | devPreview
  | custom
  | other (name : String)
deriving Repr, DecidableEq

namespace FeatureSet

/-- The set of a name; both the empty name and `Default` are the standard set. -/
def ofName (name : String) : FeatureSet :=
  if name = "" ∨ name = "Default" then standard
  else if name = "TechPreviewNoUpgrade" then techPreview
  else if name = "DevPreviewNoUpgrade" then devPreview
  else if name = "CustomNoUpgrade" then custom
  else other name

def name : FeatureSet → String
  | standard => ""
  | techPreview => "TechPreviewNoUpgrade"
  | devPreview => "DevPreviewNoUpgrade"
  | custom => "CustomNoUpgrade"
  | other name => name

/-- What a diagnosis shows of a set. -/
def describe : FeatureSet → String
  | standard => "Default"
  | other name => "Other(" ++ Text.quoted name ++ ")"
  | set => set.name

end FeatureSet

/-- Gates named one by one. -/
structure CustomGates where
  enabled : List String
  disabled : List String
deriving Repr, DecidableEq

namespace CustomGates

def fieldNames : List String := ["enabled", "disabled"]

def read? (j : Json) : Option CustomGates := do
  match ← recordFields? fieldNames j with
  | [enabled, disabled] =>
    return ⟨← defaulted [] (list? str?) enabled, ← defaulted [] (list? str?) disabled⟩
  | _ => none

def toJson (gates : CustomGates) : Json :=
  ofFields [("enabled", some (.arr (gates.enabled.map .str))),
    ("disabled", some (.arr (gates.disabled.map .str)))]

end CustomGates

structure FeatureGateSpec where
  featureSet : FeatureSet
  custom : Option CustomGates
deriving Repr, DecidableEq

namespace FeatureGateSpec

def fieldNames : List String := ["featureSet", "customNoUpgrade"]

def read? (j : Json) : Option FeatureGateSpec := do
  match ← recordFields? fieldNames j with
  | [featureSet, custom] =>
    return ⟨← defaulted .standard (fun j => (str? j).map FeatureSet.ofName) featureSet,
      ← optional CustomGates.read? custom⟩
  | _ => none

def toJson (spec : FeatureGateSpec) : Json :=
  ofFields [("featureSet", some (.str spec.featureSet.name)),
    ("customNoUpgrade", spec.custom.map CustomGates.toJson)]

end FeatureGateSpec

/-- A gate is written as a record whose one field is its name. -/
def gateName? (j : Json) : Option String := do
  match ← recordFields? ["name"] j with
  | [name] => required str? name
  | _ => none

def ofGateName (name : String) : Json := ofFields [("name", some (.str name))]

/-- The gates of one release version. -/
structure GateDetails where
  version : String
  enabled : List String
  disabled : List String
deriving Repr, DecidableEq

namespace GateDetails

def fieldNames : List String := ["version", "enabled", "disabled"]

def read? (j : Json) : Option GateDetails := do
  match ← recordFields? fieldNames j with
  | [version, enabled, disabled] =>
    return ⟨← required str? version, ← defaulted [] (list? gateName?) enabled,
      ← defaulted [] (list? gateName?) disabled⟩
  | _ => none

def toJson (details : GateDetails) : Json :=
  ofFields [("version", some (.str details.version)),
    ("enabled", some (.arr (details.enabled.map ofGateName))),
    ("disabled", some (.arr (details.disabled.map ofGateName)))]

end GateDetails

structure FeatureGateStatus where
  featureGates : List GateDetails
deriving Repr, DecidableEq

namespace FeatureGateStatus

def read? (j : Json) : Option FeatureGateStatus := do
  match ← recordFields? ["featureGates"] j with
  | [featureGates] => return ⟨← defaulted [] (list? GateDetails.read?) featureGates⟩
  | _ => none

def toJson (status : FeatureGateStatus) : Json :=
  ofFields [("featureGates", some (.arr (status.featureGates.map GateDetails.toJson)))]

end FeatureGateStatus

abbrev FeatureGate := Resource FeatureGateSpec FeatureGateStatus

namespace FeatureGate

def type : TypeName := ⟨"config.openshift.io/v1", "FeatureGate"⟩

/-- The name of the one object of this type. -/
def objectName : String := "cluster"

def read? : Json → Option FeatureGate := Resource.read? FeatureGateSpec.read? FeatureGateStatus.read?

def toJson : FeatureGate → Json :=
  Resource.toJson type FeatureGateSpec.toJson FeatureGateStatus.toJson

/-- The first entry of the status for a version. -/
def detailsFor? (gate : FeatureGate) (version : String) : Option GateDetails :=
  gate.status.bind fun status => status.featureGates.find? (·.version = version)

end FeatureGate

end GatedManager.Api
