import GatedManager.Http.Form
import GatedManager.Scheme

/-!
# Collections

The objects of one kind, of the whole cluster or of one namespace, perhaps restricted by selectors.
The target of a list request names the path of the collection, the selectors, the largest size of
a page, and the token of the page.
-/

namespace GatedManager.Watch

/-- Which objects of a collection are meant. -/
structure Selection where
  labels : Option String := none
  fields : Option String := none
deriving Repr, DecidableEq

structure Collection where
  kind : ResourceKind
  /-- The whole cluster when there is none. -/
  namespaceName : Option String
  selection : Selection := {}
deriving Repr, DecidableEq

namespace Collection

/-- The core group has a root of its own. -/
def root (kind : ResourceKind) : String := (if kind.group = "" then "/api/" else "/apis/") ++ kind.apiVersion

def path (c : Collection) : String :=
  match c.namespaceName with
  | none => root c.kind ++ "/" ++ c.kind.plural
  | some ns => root c.kind ++ "/namespaces/" ++ ns ++ "/" ++ c.kind.plural

/-- The largest number of objects that a page is asked to hold. -/
def pageLimit : Nat := 500

def parameter (name : String) (value : Option String) : String :=
  match value with
  | none => ""
  | some value => "&" ++ name ++ "=" ++ Http.formEncode value

/-- The target of a request for a page. -/
def listTarget (c : Collection) (token : Option String) : String :=
  c.path ++ "?" ++ parameter "fieldSelector" c.selection.fields ++
    parameter "labelSelector" c.selection.labels ++
    parameter "limit" (some (toString pageLimit)) ++ parameter "continue" token

end Collection

end GatedManager.Watch
