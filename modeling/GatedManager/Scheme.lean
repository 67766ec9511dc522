import GatedManager.Api.FeatureGate
import GatedManager.Api.ClusterVersion
import GatedManager.Api.Lease
import GatedManager.Api.MachineSet

/-!
# Schemes

A scheme lists the kinds of objects that a manager knows, each once, in the order in which they
were added.
-/

namespace GatedManager

/-- A kind of objects, with the group and version of its API and its name in paths. -/
structure ResourceKind where
  group : String
  version : String
  kind : String
  plural : String
deriving Repr, DecidableEq, Inhabited

namespace ResourceKind

/-- Group and version; the core group has no name. -/
def apiVersion (k : ResourceKind) : String :=
  if k.group = "" then k.version else k.group ++ "/" ++ k.version

/-- How a kind is called in messages. -/
def key (k : ResourceKind) : String := k.apiVersion ++ "/" ++ k.kind

def machine : ResourceKind := ⟨"machine.openshift.io", "v1beta1", "Machine", "machines"⟩

def machineSet : ResourceKind := ⟨"machine.openshift.io", "v1beta1", "MachineSet", "machinesets"⟩

def clusterVersion : ResourceKind :=
  ⟨"config.openshift.io", "v1", "ClusterVersion", "clusterversions"⟩

def featureGate : ResourceKind := ⟨"config.openshift.io", "v1", "FeatureGate", "featuregates"⟩

def lease : ResourceKind := ⟨"coordination.k8s.io", "v1", "Lease", "leases"⟩

/-- A kind of the core group. -/
def core (kind plural : String) : ResourceKind := ⟨"", "v1", kind, plural⟩

/-- The kinds that have a name here. -/
def all : List ResourceKind :=
  [machine, machineSet, clusterVersion, featureGate, lease, core "ConfigMap" "configmaps",
   core "Secret" "secrets", core "Pod" "pods", core "Node" "nodes",
   core "Namespace" "namespaces"]

def ofName? (name : String) : Option ResourceKind := all.find? (·.kind = name)

end ResourceKind

structure Scheme where
  kinds : List ResourceKind := []
deriving Repr, DecidableEq, Inhabited

namespace Scheme

def recognizes (s : Scheme) (apiVersion kind : String) : Bool :=
  s.kinds.any fun k => k.apiVersion = apiVersion ∧ k.kind = kind

/-- The scheme with a kind, which is not added twice. -/
def add (s : Scheme) (k : ResourceKind) : Scheme :=
  if s.recognizes k.apiVersion k.kind then s else ⟨s.kinds ++ [k]⟩

/-- The kind that is kept under a key. Of kinds that share a key the last one is. -/
def keptUnder? (s : Scheme) (key : String) : Option ResourceKind :=
  s.kinds.reverse.find? (·.key = key)

/-- The kinds that this process works on. -/
def machineApi : Scheme := (({} : Scheme).add .machine).add .machineSet

end Scheme

end GatedManager
