import GatedManager.Api.Resource
import GatedManager.Text.Quoted

/-!
# Machines

A `Machine` is one host of the cluster. Its spec and its status each may name the API that is
authoritative for it; the status may refer to the node that the host has become.
-/

namespace GatedManager.Api

open Json (ofFields recordFields? required defaulted optional str? texts? any?)

/-- A reference to an object by any of type, name, namespace and unique id. -/
structure ObjectReference where
  apiVersion : Option String := none
  kind : Option String := none
  name : Option String := none
  namespaceName : Option String := none
  uid : Option String := none
deriving Repr, DecidableEq

namespace ObjectReference

def fieldNames : List String := ["apiVersion", "kind", "name", "namespace", "uid"]

/-- The reference to a node by its name. -/
def node (name : String) : ObjectReference := { kind := some "Node", name := some name }

def read? (j : Json) : Option ObjectReference := do
  match ← recordFields? fieldNames j with
  | [apiVersion, kind, name, namespaceName, uid] =>
    return ⟨← optional str? apiVersion, ← optional str? kind, ← optional str? name,
      ← optional str? namespaceName, ← optional str? uid⟩
  | _ => none

def toJson (reference : ObjectReference) : Json :=
  ofFields [("apiVersion", reference.apiVersion.map .str),
    ("kind", reference.kind.map .str),
    ("name", reference.name.map .str),
    ("namespace", reference.namespaceName.map .str),
    ("uid", reference.uid.map .str)]

end ObjectReference

/-- The API that is authoritative for a machine. -/
inductive MachineAuthority
  | machineApi
  | clusterApi
  | migrating
  | other (name : String)
deriving Repr, DecidableEq

namespace MachineAuthority

def ofName (name : String) : MachineAuthority :=
  if name = "MachineAPI" then machineApi
  else if name = "ClusterAPI" then clusterApi
  else if name = "Migrating" then migrating
  else other name

def name : MachineAuthority → String
  | machineApi => "MachineAPI"
  | clusterApi => "ClusterAPI"
  | migrating => "Migrating"
  | other name => name

/-- What a diagnosis shows of an authority. -/
def describe : MachineAuthority → String
  | other name => "Other(" ++ Text.quoted name ++ ")"
  | authority => authority.name

def read? (j : Json) : Option MachineAuthority := (str? j).map ofName

def toJson (authority : MachineAuthority) : Json := .str authority.name

end MachineAuthority

/-- Labels and annotations for the objects made from a template; written only when there are
any. -/
structure TemplateMeta where
  labels : List (String × String)
  annotations : List (String × String)
deriving Repr, DecidableEq

namespace TemplateMeta

def read? (j : Json) : Option TemplateMeta := do
  match ← recordFields? ["labels", "annotations"] j with
  | [labels, annotations] =>
    return ⟨← defaulted [] texts? labels, ← defaulted [] texts? annotations⟩
  | _ => none

/-- Texts unless there are none. -/
def ofTexts? (texts : List (String × String)) : Option Json :=
  if texts.isEmpty then none else some (Json.ofTexts texts)

def toJson (template : TemplateMeta) : Json :=
  ofFields [("labels", ofTexts? template.labels), ("annotations", ofTexts? template.annotations)]

end TemplateMeta

/-- Settings for the provider of the host, of any shape. -/
structure ProviderSpec where
  value : Option Json
deriving Inhabited, BEq

namespace ProviderSpec

def read? (j : Json) : Option ProviderSpec := do
  match ← recordFields? ["value"] j with
  | [value] => return ⟨← optional any? value⟩
  | _ => none

def toJson (provider : ProviderSpec) : Json := ofFields [("value", provider.value)]

end ProviderSpec

structure MachineSpec where
  metadata : Option TemplateMeta
  providerSpec : ProviderSpec
  providerId : Option String
  authority : Option MachineAuthority
deriving BEq

namespace MachineSpec

def empty : MachineSpec := ⟨none, ⟨none⟩, none, none⟩

def fieldNames : List String := ["metadata", "providerSpec", "providerID", "authoritativeAPI"]

def read? (j : Json) : Option MachineSpec := do
  match ← recordFields? fieldNames j with
  | [metadata, providerSpec, providerId, authority] =>
    return ⟨← optional TemplateMeta.read? metadata, ← defaulted ⟨none⟩ ProviderSpec.read? providerSpec,
      ← optional str? providerId, ← optional MachineAuthority.read? authority⟩
  | _ => none

def toJson (spec : MachineSpec) : Json :=
  ofFields [("metadata", spec.metadata.map TemplateMeta.toJson),
    ("providerSpec", some spec.providerSpec.toJson),
    ("providerID", spec.providerId.map .str),
    ("authoritativeAPI", spec.authority.map MachineAuthority.toJson)]

end MachineSpec

structure MachineStatus where
  nodeRef : Option ObjectReference
  phase : Option String
  errorMessage : Option String
  authority : Option MachineAuthority
deriving Repr, DecidableEq

namespace MachineStatus

def fieldNames : List String := ["nodeRef", "phase", "errorMessage", "authoritativeAPI"]

def read? (j : Json) : Option MachineStatus := do
  match ← recordFields? fieldNames j with
  | [nodeRef, phase, errorMessage, authority] =>
    return ⟨← optional ObjectReference.read? nodeRef, ← optional str? phase,
      ← optional str? errorMessage, ← optional MachineAuthority.read? authority⟩
  | _ => none

def toJson (status : MachineStatus) : Json :=
  ofFields [("nodeRef", status.nodeRef.map ObjectReference.toJson),
    ("phase", status.phase.map .str),
    ("errorMessage", status.errorMessage.map .str),
    ("authoritativeAPI", status.authority.map MachineAuthority.toJson)]

end MachineStatus

abbrev Machine := Resource MachineSpec MachineStatus

namespace Machine

def type : TypeName := ⟨"machine.openshift.io/v1beta1", "Machine"⟩

def read? : Json → Option Machine := Resource.read? MachineSpec.read? MachineStatus.read?

def toJson : Machine → Json := Resource.toJson type MachineSpec.toJson MachineStatus.toJson

end Machine

end GatedManager.Api
