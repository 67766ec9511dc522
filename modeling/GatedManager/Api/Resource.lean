import GatedManager.Api.Meta

/-!
# Objects of the API

An object has a type, metadata, a spec and perhaps a status. Its metadata and its spec must be
there and not null. It is written under the name of its own type, whatever the name it was read
under; a status that is absent or null is left out.
-/

namespace GatedManager.Api

open Json (ofFields recordFields? required optional)

/-- The name of a type of objects. -/
structure TypeName where
  apiVersion : String
  kind : String
deriving Repr, DecidableEq, Inhabited

namespace TypeName

/-- A text that must be the given one where it is present. -/
def fixed? (text : String) : Option Json → Option Unit
  | none => some ()
  | some (.str s) => if s = text then some () else none
  | some _ => none

/-- Checks the type that an object is written under, as far as it names one. -/
def check? (type : TypeName) (apiVersion kind : Option Json) : Option Unit := do
  fixed? type.apiVersion apiVersion
  fixed? type.kind kind

end TypeName

/-- An object with a spec and a status of the given types. -/
structure Resource (Spec Status : Type) where
  metadata : ObjectMeta
  spec : Spec
  status : Option Status
deriving Inhabited

namespace Resource

variable {Spec Status : Type}

def fieldNames : List String := ["metadata", "spec", "status"]

/-- A resource written as an array names all three fields. -/
def isWhole : Json → Bool
  | .arr items => items.length == fieldNames.length
  | _ => true

def read? (readSpec : Json → Option Spec) (readStatus : Json → Option Status) (j : Json) :
    Option (Resource Spec Status) := do
  match ← recordFields? fieldNames j with
  | [metadata, spec, status] =>
    if isWhole j then
      return ⟨← required ObjectMeta.read? metadata, ← required readSpec spec,
        ← optional readStatus status⟩
    else none
  | _ => none

def toJson (type : TypeName) (writeSpec : Spec → Json) (writeStatus : Status → Json)
    (object : Resource Spec Status) : Json :=
  ofFields [("apiVersion", some (.str type.apiVersion)),
    ("kind", some (.str type.kind)),
    ("metadata", some object.metadata.toJson),
    ("spec", some (writeSpec object.spec)),
    ("status", object.status.map writeStatus)]

end Resource

end GatedManager.Api
