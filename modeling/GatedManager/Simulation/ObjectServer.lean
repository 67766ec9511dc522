import GatedManager.Text.NameSet
import GatedManager.Text.Numeral
import GatedManager.Watch.Collection
import GatedManager.Watch.Wire

/-!
# A simulated object server

The server lists collections, whole or in pages whose token is the number of objects before them,
and refuses the first requests for a list as often as it is told. A list is followed by a watch,
over which a script sends notices. Selectors are not applied.
-/

namespace GatedManager.Simulation

open Text (NameSet)
open Watch (Collection Crash Form Informer Input Notice)

/-- What the server lists for a collection. -/
structure Listing where
  items : List Json := []
  /-- The size of a page; zero when there is one page only. -/
  page : Nat := 0
  /-- How many requests are still refused. -/
  refusals : Nat := 0

structure ObjectServer where
  /-- By the path of the collection; the first entry of a path counts. -/
  listings : List (String × Listing) := []
  /-- The targets of all list requests. -/
  requests : NameSet := .empty

namespace ObjectServer

def listing (server : ObjectServer) (path : String) : Listing := (server.listings.lookup path).getD {}

def setListing (server : ObjectServer) (path : String) (listing : Listing) : ObjectServer :=
  { server with listings := (path, listing) :: server.listings.filter (·.1 ≠ path) }

/-- The objects of a page, and the token of the next one. -/
def pageOf (listing : Listing) (token : Option String) : List Json × Option String :=
  let start := (token.bind fun t => Text.natural? 10 t.toList).getD 0
  let rest := listing.items.drop start
  if listing.page = 0 ∨ rest.length ≤ listing.page then (rest, none)
  else (rest.take listing.page, some (toString (start + listing.page)))

/-- Answers a request for a page, `none` being a refusal. -/
def list (server : ObjectServer) (collection : Collection) (token : Option String) :
    Option (List Json × Option String) × ObjectServer :=
  let server := { server with requests := server.requests.insert (collection.listTarget token) }
  let listing := server.listing collection.path
  if listing.refusals = 0 then (some (pageOf listing token), server)
  else (none, server.setListing collection.path { listing with refusals := listing.refusals - 1 })

end ObjectServer

/-- The watch of one informer, as the server sees it, and what the informer has not taken yet. -/
structure Connection (α : Type) where
  isOpen : Bool := false
  waiting : List (Notice α) := []

section

variable {α : Type}

/-- An informer, its watch and the server. -/
structure Client (α : Type) where
  informer : Informer α
  connection : Connection α
  server : ObjectServer
  /-- How many events the informer has passed on. -/
  events : Nat := 0

namespace Client

def take (c : Client α) (input : Input α) (now : Instant) : Client α :=
  let events := (c.informer.stage.react input).events.length
  { c with informer := c.informer.take input now, events := c.events + events }

/-- One step of an informer that need not wait; `none` when it waits. -/
def step? (form : Form α) (collection : Collection) (now : Instant) (c : Client α) :
    Option (Except Crash (Client α)) :=
  if c.informer.isPaused now then none
  else match c.informer.stage with
    | .idle => some (.ok (c.take .go now))
    | .listing token =>
      let (answer, server) := c.server.list collection token
      let c := { c with server := server }
      match answer with
      | none => some (.ok (c.take .refused now))
      | some (items, next) => some ((form.page items next).map (c.take · now))
    | .opening => some (.ok { c.take .opened now with connection := ⟨true, []⟩ })
    | .watching =>
      match c.connection.waiting with
      | notice :: waiting =>
        let c := { c with connection := { c.connection with waiting := waiting } }
        let c := c.take (.notice notice) now
        some (.ok (if c.informer.stage = .idle then { c with connection := {} } else c))
      | [] => if c.connection.isOpen then none else some (.ok (c.take (.notice .closed) now))

/-- Runs an informer until it waits. -/
def run (form : Form α) (collection : Collection) (now : Instant) :
    Nat → Client α → Except Crash (Client α)
  | 0, c => .ok c
  | fuel + 1, c =>
    match c.step? form collection now with
    | none => .ok c
    | some (.error crash) => .error crash
    | some (.ok c) => c.run form collection now fuel

/-- A bound on the steps that an informer makes before it waits: its pages, its notices, and a few
more to begin, to open the watch and to open it again. -/
def fuel (collection : Collection) (c : Client α) : Nat :=
  (c.server.listing collection.path).items.length + c.connection.waiting.length + 8

def settle (form : Form α) (collection : Collection) (now : Instant) (c : Client α) :
    Except Crash (Client α) :=
  c.run form collection now (c.fuel collection)

end Client

namespace Connection

/-- A notice is sent over an open watch. -/
def send (c : Connection α) (notice : Notice α) : Connection α :=
  if c.isOpen then { c with waiting := c.waiting ++ [notice] } else c

def close (c : Connection α) : Connection α := { c with isOpen := false }

end Connection

end

end GatedManager.Simulation
