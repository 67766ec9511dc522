import GatedManager.Cache.Objects
import GatedManager.Simulation.ObjectServer

/-!
# Simulated caches

A cache runs against a simulated object server under a clock that moves only when everything
waits. After each step everything runs until it waits.
-/

namespace GatedManager.Simulation

open Api (AnyObject)
open Cache (ReadFault Subscriber Ticks)
open Manager (ManagerError)
open Watch (Collection Crash Notice)

structure CacheWorld where
  now : Instant
  server : ObjectServer
  cache : Cache
  /-- The watches of the cells, in their order. -/
  connections : List (Connection AnyObject)
  subscriber : Subscriber := ⟨0⟩
  /-- Whether the informers were told to stop. -/
  stopped : Bool := false

namespace CacheWorld

/-- The informers end, and their watches with them. -/
def halt (w : CacheWorld) : CacheWorld :=
  { w with cache := w.cache.stop, connections := w.connections.map fun _ => {} }

/-- The informer of a cell runs until it waits. -/
def settleCell (w : CacheWorld) (index : Nat) : Except Crash CacheWorld :=
  match w.cache.cells[index]?, w.connections[index]? with
  | some cell, some connection => do
    let client ← Client.settle Cache.wire cell.collection w.now ⟨cell.informer, connection, w.server, 0⟩
    let cells := w.cache.cells.set index { cell with informer := client.informer }
    return { w with
      server := client.server
      cache := { w.cache with cells := cells }
      connections := w.connections.set index client.connection }
  | _, _ => .ok w

/-- Everything runs until it waits. The informers share one task, so they end together when one of
them crashes. -/
def settle (w : CacheWorld) : CacheWorld :=
  match w.cache.phase with
  | .running _ =>
    let w := { w with cache := w.cache.tickTo w.now }
    match (List.range w.cache.cells.length).foldlM settleCell w with
    | .ok w => w
    | .error _ => w.halt
  | _ => w

/-- The next instant at which a pause of an informer ends. -/
def nextWake? (w : CacheWorld) : Option Instant :=
  match w.cache.phase with
  | .running _ => ((w.cache.cells.filterMap (·.informer.pausedUntil)).filter (w.now < ·)).min?
  | _ => none

/-- Lets time pass until `target`, or until the sync is settled when that is what is waited for.
Every wake comes later than the one before. -/
def pass (untilSync : Bool) (target : Instant) : Nat → CacheWorld → CacheWorld
  | 0, w => w
  | fuel + 1, w =>
    if untilSync && w.cache.syncResult?.isSome then w
    else match w.nextWake? with
      | some wake =>
        if wake ≤ target then pass untilSync target fuel { w with now := wake }.settle
        else { w with now := target }.settle
      | none => { w with now := target }.settle

def passTo (w : CacheWorld) (untilSync : Bool) (target : Instant) : CacheWorld :=
  pass untilSync target (target - w.now + 1) w

end CacheWorld

/-- A step of a simulated cache. -/
inductive CacheStep
  | start
  /-- The informers are dropped before they were started. -/
  | drop
  | stop
  /-- The server sends a notice over the watch of a kind in a namespace. -/
  | notice (kind : ResourceKind) (namespaceName type : String) (object : Json)
  | close (kind : ResourceKind) (namespaceName : String)
  | relist (kind : ResourceKind) (namespaceName : String) (listing : Listing)
  | list (kind : ResourceKind) (namespaceName : String)
  | get (kind : ResourceKind) (namespaceName name : String)
  | namespaces
  | synced
  | wait (limit : Duration)
  | sleep (d : Duration)
  | subscribe
  | ticks
  | requests
  | render
  | nothing

inductive CacheResult
  | nothing
  | finished (b : Bool)
  | watches (n : Nat)
  | objects (result : Except ReadFault (List Json))
  | object (result : Except ReadFault (Option Json))
  | names (names : List String)
  | synced (b : Bool)
  /-- How a wait for the sync has ended, `none` when its time was up. -/
  | waited (result : Option (Except ManagerError Unit))
  | ticks (t : Ticks)
  | text (s : String)

namespace CacheWorld

/-- The path of a kind in a namespace. -/
def pathOf (kind : ResourceKind) (namespaceName : String) : String :=
  Collection.path ⟨kind, some namespaceName, {}⟩

/-- The position of the cell of a kind in a namespace. -/
def cell? (w : CacheWorld) (kind : ResourceKind) (namespaceName : String) : Option Nat :=
  w.cache.cells.findIdx? fun cell => cell.kind = kind ∧ cell.namespaceName = namespaceName

def onConnection (w : CacheWorld) (kind : ResourceKind) (namespaceName : String)
    (f : Connection AnyObject → Connection AnyObject) : CacheWorld :=
  match w.cell? kind namespaceName with
  | none => w
  | some index => { w with connections := w.connections.modify index f }

/-- How many watches of a kind in a namespace are open. -/
def watches (w : CacheWorld) (kind : ResourceKind) (namespaceName : String) : Nat :=
  match (w.cell? kind namespaceName).bind (w.connections[·]?) with
  | some connection => if connection.isOpen then 1 else 0
  | none => 0

def act (w : CacheWorld) : CacheStep → CacheResult × CacheWorld
  | .start =>
    if w.cache.phase ≠ .idle then (.nothing, w)
    -- A first tick beyond the end of the clock crashes the informers.
    else if w.stopped || (Instant.add? w.now w.cache.options.syncPeriod).isNone then
      (.nothing, w.halt)
    else (.nothing, { w with cache := w.cache.start w.now })
  | .drop => (.nothing, if w.cache.phase = .idle then w.halt else w)
  | .stop =>
    let w := { w with stopped := true }
    (.finished true, if w.cache.phase = .idle then w else w.halt)
  | .notice kind ns type object =>
    let watches := w.watches kind ns
    if watches = 0 then (.watches 0, w)
    else match Cache.wire.notice type object with
      | .ok notice => (.watches watches, w.onConnection kind ns (·.send notice))
      | .error _ => (.watches watches, w.halt)
  | .close kind ns => (.nothing, w.onConnection kind ns (·.close))
  | .relist kind ns listing =>
    (.nothing, { w with server := w.server.setListing (pathOf kind ns) listing })
  | .list kind ns => (.objects (w.cache.list kind.normal? kind ns), w)
  | .get kind ns name => (.object (w.cache.get kind.normal? kind ns name), w)
  | .namespaces => (.names w.cache.namespaces, w)
  | .synced => (.synced w.cache.isSynced, w)
  | .wait limit =>
    let w := w.passTo true (w.now + limit.nanos)
    (.waited w.cache.syncResult?, w)
  | .sleep d => (.nothing, w.passTo false (w.now + d.nanos))
  | .subscribe => (.nothing, { w with subscriber := ⟨w.cache.sent⟩ })
  | .ticks =>
    let (ticks, subscriber) := w.subscriber.look w.cache.sent
    (.ticks ticks, { w with subscriber := subscriber })
  | .requests => (.names w.server.requests.toList, w)
  | .render => (.text w.cache.metrics.render, w)
  | .nothing => (.nothing, w)

/-- The results of a list of steps. -/
def steps (w : CacheWorld) : List CacheStep → List CacheResult
  | [] => []
  | s :: rest =>
    let (result, w) := w.act s
    result :: w.settle.steps rest

end CacheWorld

/-- The results of a cache that runs against a server with the given lists. The readers of the cache
outlive its informers, so a crash of these is not one of the run. -/
def runCache (cache : Cache) (listings : List (ResourceKind × String × Listing))
    (steps : List CacheStep) : Except Crash (List CacheResult) :=
  let server : ObjectServer := listings.foldl
    (fun server (kind, ns, listing) => server.setListing (CacheWorld.pathOf kind ns) listing) {}
  .ok (CacheWorld.steps ⟨0, server, cache, cache.cells.map fun _ => {}, ⟨0⟩, false⟩ steps)

end GatedManager.Simulation
