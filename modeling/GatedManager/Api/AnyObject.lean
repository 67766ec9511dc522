import GatedManager.Api.Resource

/-!
# Objects of any kind

An object whose kind is not looked at: its type, if it names one in full, its metadata, and all
its other members as they were written. It is read from an object only.
-/

namespace GatedManager.Api

open Json (defaulted)

structure AnyObject where
  type : Option TypeName
  metadata : ObjectMeta
  /-- All other members. -/
  content : List (String × Json)
deriving Inhabited

namespace AnyObject

def type? (members : List (String × Json)) : Option TypeName := do
  let .str apiVersion ← Json.member? "apiVersion" members | none
  let .str kind ← Json.member? "kind" members | none
  return ⟨apiVersion, kind⟩

/-- The members that are neither type nor metadata. -/
def contentOf (members : List (String × Json)) : List (String × Json) :=
  members.filter fun (name, _) => !(["apiVersion", "kind", "metadata"].contains name)

def read? : Json → Option AnyObject
  | .obj members => do
    let metadata ← defaulted {} ObjectMeta.read? (Json.member? "metadata" members)
    return ⟨type? members, metadata, contentOf members⟩
  | _ => none

def toJson (object : AnyObject) : Json :=
  let type := match object.type with
    | none => []
    | some type => [("apiVersion", Json.str type.apiVersion), ("kind", .str type.kind)]
  .obj (type ++ ("metadata", object.metadata.toJson) :: object.content)

end AnyObject

end GatedManager.Api
