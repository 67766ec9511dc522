import GatedManager.Api.Meta
import GatedManager.Watch.Informer

/-!
# Objects over the wire

What the API sends becomes pages and notices. A page is refused when one of its objects does not
decode. A notice that does not decode is an error that leaves the watch open; one whose object
names no version loses the watch, and so does the error that says the version is gone.

An object without a name cannot be kept: the process ends.
-/

namespace GatedManager.Watch

open Api (ObjectMeta)

/-- A type of objects that can be watched. -/
structure Form (α : Type) where
  read? : Json → Option α
  metadata : α → ObjectMeta

/-- What ends the process. -/
inductive Crash
  | nameless
  | clockOverflow
  | noPeriod
deriving Repr, DecidableEq

def Crash.message : Crash → String
  | nameless => ".metadata.name missing"
  | clockOverflow => "overflow when adding duration to instant"
  | noPeriod => "`period` must be non-zero."

/-- The key of an object with a name. -/
def keyOf (md : ObjectMeta) : Except Crash ObjectKey :=
  match md.name with
  | none => .error .nameless
  | some name => .ok ⟨md.namespaceName, name⟩

/-- The version of an object; an empty one does not count. -/
def versionOf? (md : ObjectMeta) : Option String := md.resourceVersion.filter (· ≠ "")

namespace Form

variable {α : Type}

def keyed (form : Form α) (object : α) : Except Crash (ObjectKey × α) :=
  (keyOf (form.metadata object)).map (·, object)

/-- The input that a page of objects is. -/
def page (form : Form α) (items : List Json) (next : Option String) : Except Crash (Input α) :=
  match items.mapM form.read? with
  | none => .ok .refused
  | some objects => (objects.mapM form.keyed).map fun items => .page ⟨items, next⟩

/-- The status code that says that a version is gone. -/
def goneCode : Int := 410

def isGone (status : Json) : Bool := status.get? "code" == some (.int goneCode)

/-- What becomes of an object that a notice names. -/
def noticeOf (form : Form α) (object : Json) (notice : ObjectKey → α → Notice α) :
    Except Crash (Notice α) :=
  match form.read? object with
  | none => .ok .failed
  | some object =>
    match versionOf? (form.metadata object) with
    | none => .ok .lost
    | some _ => (form.keyed object).map fun (key, object) => notice key object

/-- Whether the object of a bookmark names a version. -/
def isBookmark (object : Json) : Bool :=
  match (object.get? "metadata").bind (·.get? "resourceVersion") with
  | some (.str _) => true
  | _ => false

/-- The notice of a type with an object. -/
def notice (form : Form α) (type : String) (object : Json) : Except Crash (Notice α) :=
  match type with
  | "ADDED" => form.noticeOf object .changed
  | "MODIFIED" => form.noticeOf object .changed
  | "DELETED" => form.noticeOf object fun key _ => .removed key
  | "BOOKMARK" => .ok (if isBookmark object then .bookmark else .failed)
  | "ERROR" => .ok (if isGone object then .lost else .failed)
  | _ => .ok .failed

end Form

end GatedManager.Watch
