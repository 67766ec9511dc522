import GatedManager.Cache.Options
import GatedManager.Cache.Resync
import GatedManager.Cache.Typed
import GatedManager.Manager.Error
import GatedManager.Metrics
import GatedManager.Text.NameSet
import GatedManager.Watch.Wire

/-!
# The object cache

The cache has one informer for each kind of the scheme and each configured namespace. Readers ask
for a kind and a namespace and get what the reflector of that pair holds. Stores are kept under the
key of their kind, so that of kinds with the same key only the last one can be read. The cache is
synced when the reflector of every store that is kept is ready; it never will be when its informers
end before that.

While the informers run the cache ticks. With no informers at all it has nothing to run, so it
ends at once.
-/

namespace GatedManager

open Api (AnyObject)
open Manager (ManagerError)
open Watch (Collection Informer Input Selection Store)

namespace Cache

/-- The informer of a kind in a namespace. -/
structure Cell where
  kind : ResourceKind
  namespaceName : String
  selection : Selection
  informer : Informer AnyObject := {}

/-- Where the informers are in their life. -/
inductive Phase
  | idle
  | running (start : Instant)
  | ended
deriving Repr, DecidableEq

def Cell.collection (cell : Cell) : Collection :=
  ⟨cell.kind, some cell.namespaceName, cell.selection⟩

/-- Objects of any kind over the wire. -/
def wire : Watch.Form AnyObject := ⟨AnyObject.read?, (·.metadata)⟩

end Cache

structure Cache where
  scheme : Scheme
  options : Cache.Options
  cells : List Cache.Cell
  phase : Cache.Phase := .idle
  /-- How many ticks have been sent. -/
  sent : Nat := 0
  metrics : Metrics := {}

namespace Cache

/-- The cells of a scheme: each kind in each namespace. -/
def cellsOf (scheme : Scheme) (options : Options) : List Cell :=
  scheme.kinds.flatMap fun kind =>
    options.namespaces.map fun (name, selection) =>
      { kind := kind, namespaceName := name, selection := selection }

/-- A cache that has not been started. -/
def build (scheme : Scheme) (options : Options) : Except OptionsFault Cache :=
  match options.validate with
  | .error fault => .error fault
  | .ok () => .ok { scheme := scheme, options := options, cells := cellsOf scheme options }

def namespaces (c : Cache) : List String := c.options.names

/-! ### Readers -/

/-- Why a kind in a namespace cannot be read. -/
inductive ReadFault
  | unknownKind (kind : ResourceKind)
  | unknownNamespace (name : String)
  | unparsable
deriving Repr, DecidableEq

def ReadFault.toError : ReadFault → ManagerError
  | unknownKind kind => .cacheRead ("kind " ++ kind.key ++ " is not registered in the scheme")
  | unknownNamespace name => .cacheRead ("namespace " ++ name ++ " is not cached")
  | unparsable => .cacheParse "the object is not of the requested kind"

/-- The store of a kind in a namespace. -/
def store? (c : Cache) (kind : ResourceKind) (namespaceName : String) :
    Except ReadFault (Store AnyObject) :=
  match c.scheme.keptUnder? kind.key with
  | none => .error (.unknownKind kind)
  | some kept =>
    match c.cells.find? fun cell => cell.kind = kept ∧ cell.namespaceName = namespaceName with
    | none => .error (.unknownNamespace namespaceName)
    | some cell => .ok cell.informer.reflector.store

section Readers

variable {α : Type} (read? : Json → Option α)

def parse (object : AnyObject) : Except ReadFault α :=
  match read? object.toJson with
  | none => .error .unparsable
  | some a => .ok a

/-- All objects of a kind in a namespace, in the order of their names. -/
def list (c : Cache) (kind : ResourceKind) (namespaceName : String) : Except ReadFault (List α) := do
  let store ← c.store? kind namespaceName
  store.objects.mapM (parse read?)

/-- The object of a kind and a name in a namespace. -/
def get (c : Cache) (kind : ResourceKind) (namespaceName name : String) :
    Except ReadFault (Option α) := do
  let store ← c.store? kind namespaceName
  match store.lookup namespaceName name with
  | none => return none
  | some object => return some (← parse read? object)

end Readers

/-- The cells whose stores are kept, in the order of the keys of their kinds. The cells of a kind
whose key a later one has are not among them. -/
def kept (c : Cache) : List Cell :=
  (Text.NameSet.ofList (c.scheme.kinds.map (·.key))).toList.flatMap fun key =>
    c.cells.filter fun cell => c.scheme.keptUnder? key = some cell.kind

/-- Whether every list of a store that is kept has been completed. -/
def isSynced (c : Cache) : Bool := c.kept.all (·.informer.reflector.ready)

/-- The text of a cache that ended before it was synced. -/
def neverSynced : String := "writer was dropped before store became ready"

/-- What a wait for the sync would return now, `none` while it goes on. -/
def syncResult? (c : Cache) : Option (Except ManagerError Unit) :=
  if c.isSynced then some (.ok ())
  else if c.phase = .ended then some (.error (.cacheSync neverSynced))
  else none

/-! ### Informers -/

/-- The informers start to run. -/
def start (c : Cache) (now : Instant) : Cache :=
  if c.phase ≠ .idle then c
  else if c.cells.isEmpty then { c with phase := .ended }
  else { c with phase := .running now }

/-- The informers end. -/
def stop (c : Cache) : Cache := { c with phase := .ended }

/-- One tick: every namespace counts a resync, and the tick is sent. -/
def tick (c : Cache) : Cache :=
  { c with sent := c.sent + 1, metrics := c.namespaces.foldl Metrics.recordResync c.metrics }

/-- The ticks that are due at `now`. -/
def tickTo (c : Cache) (now : Instant) : Cache :=
  match c.phase with
  | .running start =>
    (ticksDue start c.options.syncPeriod now - c.sent).fold (fun _ _ c => c.tick) c
  | _ => c

/-- An input for the informer of a cell. -/
def take (c : Cache) (cell : Nat) (input : Input AnyObject) (now : Instant) : Cache :=
  match c.phase with
  | .running _ =>
    { c with cells := c.cells.modify cell fun x => { x with informer := x.informer.take input now } }
  | _ => c

end Cache

end GatedManager
