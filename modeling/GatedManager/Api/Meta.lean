import GatedManager.Json.Record
import GatedManager.Time.Reader

/-!
# Object metadata

What every object of the API carries: its name and namespace, its version in the store, labels,
owners and bookkeeping. Metadata is read from an object only, each of its fields may be null, and
it is written without the fields that are absent. Times have no decimals.
-/

namespace GatedManager.Api

open Json (ofFields objectFields? optional str? bool? int64? list? texts? any?)

def time? : Json → Option Timestamp
  | .str text => Timestamp.read? text
  | _ => none

def ofTime (precision : Timestamp.Precision) (t : Timestamp) : Json := .str (t.render precision)

/-- A field that is the empty text when absent or null. -/
def textOrEmpty (field : Option Json) : Option String :=
  (optional str? field).map (·.getD "")

/-- Who owns an object. -/
structure OwnerReference where
  apiVersion : String
  blockOwnerDeletion : Option Bool
  controller : Option Bool
  kind : String
  name : String
  uid : String
deriving DecidableEq, Inhabited

namespace OwnerReference

def fieldNames : List String :=
  ["apiVersion", "blockOwnerDeletion", "controller", "kind", "name", "uid"]

def read? (j : Json) : Option OwnerReference := do
  match ← objectFields? fieldNames j with
  | [apiVersion, blockOwnerDeletion, controller, kind, name, uid] =>
    return ⟨← textOrEmpty apiVersion, ← optional bool? blockOwnerDeletion,
      ← optional bool? controller, ← textOrEmpty kind, ← textOrEmpty name, ← textOrEmpty uid⟩
  | _ => none

def toJson (owner : OwnerReference) : Json :=
  ofFields [("apiVersion", some (.str owner.apiVersion)),
    ("blockOwnerDeletion", owner.blockOwnerDeletion.map .bool),
    ("controller", owner.controller.map .bool),
    ("kind", some (.str owner.kind)),
    ("name", some (.str owner.name)),
    ("uid", some (.str owner.uid))]

end OwnerReference

/-- Which fields a manager of the object has set. -/
structure ManagedFields where
  apiVersion : Option String
  fieldsType : Option String
  fields : Option Json
  manager : Option String
  operation : Option String
  subresource : Option String
  time : Option Timestamp
deriving Inhabited, BEq

namespace ManagedFields

def fieldNames : List String :=
  ["apiVersion", "fieldsType", "fieldsV1", "manager", "operation", "subresource", "time"]

def read? (j : Json) : Option ManagedFields := do
  match ← objectFields? fieldNames j with
  | [apiVersion, fieldsType, fields, manager, operation, subresource, time] =>
    return ⟨← optional str? apiVersion, ← optional str? fieldsType, ← optional any? fields,
      ← optional str? manager, ← optional str? operation, ← optional str? subresource,
      ← optional time? time⟩
  | _ => none

def toJson (entry : ManagedFields) : Json :=
  ofFields [("apiVersion", entry.apiVersion.map .str),
    ("fieldsType", entry.fieldsType.map .str),
    ("fieldsV1", entry.fields),
    ("manager", entry.manager.map .str),
    ("operation", entry.operation.map .str),
    ("subresource", entry.subresource.map .str),
    ("time", entry.time.map (ofTime .seconds))]

end ManagedFields

/-- The metadata of an object. -/
structure ObjectMeta where
  annotations : Option (List (String × String)) := none
  creationTimestamp : Option Timestamp := none
  deletionGracePeriodSeconds : Option Int := none
  deletionTimestamp : Option Timestamp := none
  finalizers : Option (List String) := none
  generateName : Option String := none
  generation : Option Int := none
  labels : Option (List (String × String)) := none
  managedFields : Option (List ManagedFields) := none
  name : Option String := none
  namespaceName : Option String := none
  ownerReferences : Option (List OwnerReference) := none
  resourceVersion : Option String := none
  selfLink : Option String := none
  uid : Option String := none
deriving Inhabited, BEq

namespace ObjectMeta

def fieldNames : List String :=
  ["annotations", "creationTimestamp", "deletionGracePeriodSeconds", "deletionTimestamp",
   "finalizers", "generateName", "generation", "labels", "managedFields", "name", "namespace",
   "ownerReferences", "resourceVersion", "selfLink", "uid"]

def read? (j : Json) : Option ObjectMeta := do
  match ← objectFields? fieldNames j with
  | [annotations, creationTimestamp, deletionGracePeriodSeconds, deletionTimestamp, finalizers,
      generateName, generation, labels, managedFields, name, namespaceName, ownerReferences,
      resourceVersion, selfLink, uid] =>
    return {
      annotations := ← optional texts? annotations
      creationTimestamp := ← optional time? creationTimestamp
      deletionGracePeriodSeconds := ← optional int64? deletionGracePeriodSeconds
      deletionTimestamp := ← optional time? deletionTimestamp
      finalizers := ← optional (list? str?) finalizers
      generateName := ← optional str? generateName
      generation := ← optional int64? generation
      labels := ← optional texts? labels
      managedFields := ← optional (list? ManagedFields.read?) managedFields
      name := ← optional str? name
      namespaceName := ← optional str? namespaceName
      ownerReferences := ← optional (list? OwnerReference.read?) ownerReferences
      resourceVersion := ← optional str? resourceVersion
      selfLink := ← optional str? selfLink
      uid := ← optional str? uid }
  | _ => none

def toJson (md : ObjectMeta) : Json :=
  ofFields [("annotations", md.annotations.map Json.ofTexts),
    ("creationTimestamp", md.creationTimestamp.map (ofTime .seconds)),
    ("deletionGracePeriodSeconds", md.deletionGracePeriodSeconds.map .int),
    ("deletionTimestamp", md.deletionTimestamp.map (ofTime .seconds)),
    ("finalizers", md.finalizers.map fun names => .arr (names.map .str)),
    ("generateName", md.generateName.map .str),
    ("generation", md.generation.map .int),
    ("labels", md.labels.map Json.ofTexts),
    ("managedFields", md.managedFields.map fun entries => .arr (entries.map ManagedFields.toJson)),
    ("name", md.name.map .str),
    ("namespace", md.namespaceName.map .str),
    ("ownerReferences",
      md.ownerReferences.map fun owners => .arr (owners.map OwnerReference.toJson)),
    ("resourceVersion", md.resourceVersion.map .str),
    ("selfLink", md.selfLink.map .str),
    ("uid", md.uid.map .str)]

end ObjectMeta

end GatedManager.Api
