import GatedManager.Api.AnyObject
import GatedManager.Api.ConfigMap
import GatedManager.Scheme

/-!
# Typed objects

The normal form of an object of a kind: read as that kind and written again. A kind without a type
of its own keeps its members as they are.
-/

namespace GatedManager.ResourceKind

open Api

def typeName (k : ResourceKind) : TypeName := ⟨k.apiVersion, k.kind⟩

/-- An object of a kind without a type of its own. -/
def plain? (k : ResourceKind) (j : Json) : Option Json := do
  k.typeName.check? (j.get? "apiVersion") (j.get? "kind")
  let object ← AnyObject.read? j
  return { object with type := some k.typeName }.toJson

/-- The normal form of an object of a kind, `none` when it is no object of the kind. -/
def normal? (k : ResourceKind) (j : Json) : Option Json :=
  if k = machine then (Machine.read? j).map Machine.toJson
  else if k = machineSet then (MachineSet.read? j).map MachineSet.toJson
  else if k = clusterVersion then (ClusterVersion.read? j).map ClusterVersion.toJson
  else if k = featureGate then (FeatureGate.read? j).map FeatureGate.toJson
  else if k = lease then (Lease.read? j).map Lease.toJson
  else if k.typeName = ConfigMap.type then (ConfigMap.read? j).map ConfigMap.toJson
  else if k.typeName = Secret.type then (Secret.read? j).map Secret.toJson
  else k.plain? j

end GatedManager.ResourceKind
