import GatedManager.Api.Machine

/-!
# Machine sets

A `MachineSet` keeps a number of machines, made from a template, running.
-/

namespace GatedManager.Api

open Json (ofFields recordFields? required defaulted optional int32? texts?)

structure MachineSelector where
  matchLabels : List (String × String)
deriving Repr, DecidableEq

namespace MachineSelector

def read? (j : Json) : Option MachineSelector := do
  match ← recordFields? ["matchLabels"] j with
  | [matchLabels] => return ⟨← defaulted [] texts? matchLabels⟩
  | _ => none

def toJson (selector : MachineSelector) : Json :=
  ofFields [("matchLabels", some (Json.ofTexts selector.matchLabels))]

end MachineSelector

/-- What the machines of a set are made from. -/
structure MachineTemplate where
  metadata : Option TemplateMeta
  spec : MachineSpec
deriving BEq

namespace MachineTemplate

def empty : MachineTemplate := ⟨none, MachineSpec.empty⟩

def read? (j : Json) : Option MachineTemplate := do
  match ← recordFields? ["metadata", "spec"] j with
  | [metadata, spec] =>
    return ⟨← optional TemplateMeta.read? metadata,
      ← defaulted MachineSpec.empty MachineSpec.read? spec⟩
  | _ => none

def toJson (template : MachineTemplate) : Json :=
  ofFields [("metadata", template.metadata.map TemplateMeta.toJson),
    ("spec", some template.spec.toJson)]

end MachineTemplate

structure MachineSetSpec where
  replicas : Option Int
  selector : MachineSelector
  template : MachineTemplate
  authority : Option MachineAuthority
deriving BEq

namespace MachineSetSpec

def fieldNames : List String := ["replicas", "selector", "template", "authoritativeAPI"]

def read? (j : Json) : Option MachineSetSpec := do
  match ← recordFields? fieldNames j with
  | [replicas, selector, template, authority] =>
    return ⟨← optional int32? replicas, ← defaulted ⟨[]⟩ MachineSelector.read? selector,
      ← defaulted MachineTemplate.empty MachineTemplate.read? template,
      ← optional MachineAuthority.read? authority⟩
  | _ => none

def toJson (spec : MachineSetSpec) : Json :=
  ofFields [("replicas", spec.replicas.map .int),
    ("selector", some spec.selector.toJson),
    ("template", some spec.template.toJson),
    ("authoritativeAPI", spec.authority.map MachineAuthority.toJson)]

end MachineSetSpec

structure MachineSetStatus where
  replicas : Int
  readyReplicas : Int
  availableReplicas : Int
deriving Repr, DecidableEq

namespace MachineSetStatus

def fieldNames : List String := ["replicas", "readyReplicas", "availableReplicas"]

def read? (j : Json) : Option MachineSetStatus := do
  match ← recordFields? fieldNames j with
  | [replicas, ready, available] =>
    return ⟨← defaulted 0 int32? replicas, ← defaulted 0 int32? ready,
      ← defaulted 0 int32? available⟩
  | _ => none

def toJson (status : MachineSetStatus) : Json :=
  ofFields [("replicas", some (.int status.replicas)),
    ("readyReplicas", some (.int status.readyReplicas)),
    ("availableReplicas", some (.int status.availableReplicas))]

end MachineSetStatus

abbrev MachineSet := Resource MachineSetSpec MachineSetStatus

namespace MachineSet

def type : TypeName := ⟨"machine.openshift.io/v1beta1", "MachineSet"⟩

def read? : Json → Option MachineSet := Resource.read? MachineSetSpec.read? MachineSetStatus.read?

def toJson : MachineSet → Json :=
  Resource.toJson type MachineSetSpec.toJson MachineSetStatus.toJson

end MachineSet

end GatedManager.Api
