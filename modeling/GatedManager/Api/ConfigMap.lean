import GatedManager.Api.Resource
import GatedManager.Text.Base64

/-!
# Config maps and secrets

Objects that hold texts and bytes by name. They are read from an object only, and their type,
where it is given, must be their own. Bytes are written in Base64.
-/

namespace GatedManager.Api

open Json (ofFields objectFields? optional str? bool? texts?)

/-- An object all of whose members are bytes in Base64. -/
def encodedBytes? (j : Json) : Option (List (String × String)) :=
  (texts? j).filter fun members => members.all fun (_, text) => Text.isBase64 text.toList

structure ConfigMap where
  metadata : ObjectMeta
  binaryData : Option (List (String × String))
  data : Option (List (String × String))
  immutable : Option Bool
deriving Inhabited

namespace ConfigMap

def type : TypeName := ⟨"v1", "ConfigMap"⟩

def fieldNames : List String :=
  ["apiVersion", "kind", "metadata", "binaryData", "data", "immutable"]

def read? (j : Json) : Option ConfigMap := do
  match ← objectFields? fieldNames j with
  | [apiVersion, kind, metadata, binaryData, data, immutable] =>
    type.check? apiVersion kind
    return ⟨(← optional ObjectMeta.read? metadata).getD {}, ← optional encodedBytes? binaryData,
      ← optional texts? data, ← optional bool? immutable⟩
  | _ => none

def toJson (object : ConfigMap) : Json :=
  ofFields [("apiVersion", some (.str type.apiVersion)),
    ("kind", some (.str type.kind)),
    ("metadata", some object.metadata.toJson),
    ("binaryData", object.binaryData.map Json.ofTexts),
    ("data", object.data.map Json.ofTexts),
    ("immutable", object.immutable.map .bool)]

end ConfigMap

structure Secret where
  metadata : ObjectMeta
  data : Option (List (String × String))
  immutable : Option Bool
  stringData : Option (List (String × String))
  secretType : Option String
deriving Inhabited

namespace Secret

def type : TypeName := ⟨"v1", "Secret"⟩

def fieldNames : List String :=
  ["apiVersion", "kind", "metadata", "data", "immutable", "stringData", "type"]

def read? (j : Json) : Option Secret := do
  match ← objectFields? fieldNames j with
  | [apiVersion, kind, metadata, data, immutable, stringData, secretType] =>
    type.check? apiVersion kind
    return ⟨(← optional ObjectMeta.read? metadata).getD {}, ← optional encodedBytes? data,
      ← optional bool? immutable, ← optional texts? stringData, ← optional str? secretType⟩
  | _ => none

def toJson (object : Secret) : Json :=
  ofFields [("apiVersion", some (.str type.apiVersion)),
    ("kind", some (.str type.kind)),
    ("metadata", some object.metadata.toJson),
    ("data", object.data.map Json.ofTexts),
    ("immutable", object.immutable.map .bool),
    ("stringData", object.stringData.map Json.ofTexts),
    ("type", object.secretType.map .str)]

end Secret

end GatedManager.Api
