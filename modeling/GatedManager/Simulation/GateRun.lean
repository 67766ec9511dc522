import GatedManager.Cache.Resync
import GatedManager.Gates.Following
import GatedManager.Simulation.ObjectServer

/-!
# Simulated feature gates

An accessor and its two informers run against a simulated object server under a clock that moves
only when everything waits. After each step everything runs until it waits.
-/

namespace GatedManager.Simulation

open Api (ClusterVersion FeatureGate)
open Gates (Access Change Following)
open Watch (Crash Form Informer Notice)

/-- Where informers and accessor are in their life. -/
inductive GatePhase
  | idle
  | running (start : Instant)
  | ended
deriving Repr, DecidableEq

/-- An informer, its watch, and whether it passed on anything. -/
structure Watching (α : Type) where
  informer : Informer α := {}
  connection : Connection α := {}

structure GateWorld where
  now : Instant
  server : ObjectServer
  following : Following
  clusterVersions : Watching ClusterVersion := {}
  featureGates : Watching FeatureGate := {}
  period : Duration
  phase : GatePhase := .idle
  cancelled : Bool := false
  /-- How many resyncs there have been. -/
  resyncs : Nat := 0

namespace GateWorld

def wakeIf (f : Following) (b : Bool) : Following := if b then f.wake else f

/-- The informer of the cluster version runs until it waits, and then the accessor does. -/
def settleClusterVersions (w : GateWorld) : Except Crash GateWorld := do
  let c ← Client.settle Gates.clusterVersionWire Gates.clusterVersionCollection w.now
    ⟨w.clusterVersions.informer, w.clusterVersions.connection, w.server, 0⟩
  let following := { w.following with clusterVersions := c.informer.reflector }
  return { w with
    server := c.server
    clusterVersions := ⟨c.informer, c.connection⟩
    following := (wakeIf following (c.events ≠ 0)).turn }

/-- The informer of the feature gates runs until it waits, and then the accessor does. -/
def settleFeatureGates (w : GateWorld) : Except Crash GateWorld := do
  let c ← Client.settle Gates.featureGateWire Gates.featureGateCollection w.now
    ⟨w.featureGates.informer, w.featureGates.connection, w.server, 0⟩
  let following := { w.following with featureGates := c.informer.reflector }
  return { w with
    server := c.server
    featureGates := ⟨c.informer, c.connection⟩
    following := (wakeIf following (c.events ≠ 0)).turn }

/-- The resyncs that are due wake the accessor. -/
def settleResyncs (w : GateWorld) (start : Instant) : GateWorld :=
  let due := Cache.ticksDue start w.period w.now
  { w with resyncs := due, following := (wakeIf w.following (w.resyncs < due)).turn }

/-- Everything runs until it waits. -/
def settle (w : GateWorld) : Except Crash GateWorld :=
  match w.phase with
  | .running start => do
    let w ← w.settleClusterVersions
    let w ← w.settleFeatureGates
    return w.settleResyncs start
  | _ => .ok w

/-- The next instant at which a pause of an informer ends. -/
def nextWake? (w : GateWorld) : Option Instant :=
  match w.phase with
  | .running _ =>
    ([w.clusterVersions.informer.pausedUntil, w.featureGates.informer.pausedUntil].filterMap id
      |>.filter (w.now < ·)).min?
  | _ => none

/-- Lets time pass until `target`. Every wake comes later than the one before. -/
def pass (target : Instant) : Nat → GateWorld → Except Crash GateWorld
  | 0, w => .ok w
  | fuel + 1, w =>
    match w.nextWake? with
    | some wake =>
      if wake ≤ target then do pass target fuel (← { w with now := wake }.settle)
      else { w with now := target }.settle
    | none => { w with now := target }.settle

end GateWorld

/-- The two collections that are watched. -/
inductive Watched
  | clusterVersion
  | featureGate
deriving Repr, DecidableEq

/-- A step of simulated feature gates. -/
inductive GateStep
  | start
  | notice (watched : Watched) (type : String) (object : Json)
  | close (watched : Watched)
  | relist (watched : Watched) (listing : Listing)
  | sleep (d : Duration)
  /-- Wake the accessor. -/
  | notify
  | stores
  | requests
  | cancel
  | nothing

inductive GateResult
  | nothing
  | watches (n : Nat)
  | sizes (clusterVersions featureGates : Nat)
  | targets (targets : List String)
  /-- Whether accessor and informers have ended. -/
  | ended (accessor informers : Bool)

structure GateReport where
  result : GateResult
  access : Access
  /-- The changes since the last report. -/
  changes : List Change

namespace GateWorld

def collectionOf : Watched → Watch.Collection
  | .clusterVersion => Gates.clusterVersionCollection
  | .featureGate => Gates.featureGateCollection

def sendTo {α : Type} (form : Form α) (c : Connection α) (type : String) (object : Json) :
    Except Crash (GateResult × Connection α) :=
  if c.isOpen then (form.notice type object).map fun notice => (.watches 1, c.send notice)
  else .ok (.watches 0, c)

/-- Accessor and informers end. -/
def halt (w : GateWorld) : GateWorld :=
  { w with
    phase := .ended
    clusterVersions := { w.clusterVersions with connection := {} }
    featureGates := { w.featureGates with connection := {} } }

def act (w : GateWorld) : GateStep → Except Crash (GateResult × GateWorld)
  | .start =>
    if w.phase ≠ .idle then .ok (.nothing, w)
    else if w.cancelled then .ok (.nothing, w.halt)
    else if w.period.nanos = 0 then .error .noPeriod
    else if (Instant.add? w.now w.period).isNone then .error .clockOverflow
    else .ok (.nothing, { w with phase := .running w.now })
  | .notice .clusterVersion type object => do
    let (result, c) ← sendTo Gates.clusterVersionWire w.clusterVersions.connection type object
    return (result, { w with clusterVersions := { w.clusterVersions with connection := c } })
  | .notice .featureGate type object => do
    let (result, c) ← sendTo Gates.featureGateWire w.featureGates.connection type object
    return (result, { w with featureGates := { w.featureGates with connection := c } })
  | .close .clusterVersion =>
    let c := w.clusterVersions.connection.close
    .ok (.nothing, { w with clusterVersions := { w.clusterVersions with connection := c } })
  | .close .featureGate =>
    let c := w.featureGates.connection.close
    .ok (.nothing, { w with featureGates := { w.featureGates with connection := c } })
  | .relist watched listing =>
    .ok (.nothing, { w with server := w.server.setListing (collectionOf watched).path listing })
  | .sleep d => do return (.nothing, ← pass (w.now + d.nanos) (d.nanos + 1) w)
  | .notify =>
    let following := w.following.wake
    let following := if w.phase matches .running _ then following.turn else following
    .ok (.nothing, { w with following := following })
  | .stores =>
    let result := GateResult.sizes w.following.clusterVersions.store.size
      w.following.featureGates.store.size
    .ok (result, w)
  | .requests => .ok (.targets w.server.requests.toList, w)
  | .cancel =>
    let w := { w with cancelled := true }
    .ok (.ended true true, if w.phase = .idle then w else w.halt)
  | .nothing => .ok (.nothing, w)

/-- The reports of a list of steps. -/
def steps (w : GateWorld) : List GateStep → Except Crash (List GateReport)
  | [] => .ok []
  | s :: rest => do
    let (result, w) ← w.act s
    let w ← w.settle
    let report : GateReport := ⟨result, w.following.access, w.following.changes⟩
    let following := { w.following with changes := [] }
    return report :: (← { w with following := following }.steps rest)

end GateWorld

/-- The reports of an accessor that runs against a server with the given lists. -/
def runGates (access : Access) (period : Duration) (clusterVersions featureGates : Listing)
    (steps : List GateStep) : Except Crash (List GateReport) :=
  let server := (({} : ObjectServer).setListing Gates.clusterVersionCollection.path
    clusterVersions).setListing Gates.featureGateCollection.path featureGates
  GateWorld.steps
    { now := 0, server := server, following := { access := access }, period := period } steps

end GatedManager.Simulation
