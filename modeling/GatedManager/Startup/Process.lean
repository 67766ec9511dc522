import GatedManager.Gates.Following
import GatedManager.Gates.Wait
import GatedManager.Logging.Filter
import GatedManager.Manager.Run
import GatedManager.Startup.Launch
import GatedManager.Startup.Options

/-!
# The process

A process reads its cluster configuration, makes its manager and installs its signal handlers.
Then it follows the cluster and waits for the first snapshot of the feature gates, within a limit.
With the gates it launches: it idles, or it runs its manager. It ends with the shutdown signal, with
the end of its manager, with a failure, or as soon as the gates change after the first snapshot.

Whatever happens, in the process or around it, is an *action*. Several actions may be possible in
one state, and each order of them is a course of the process.
-/

namespace GatedManager.Startup

open Gates (Access Change Following GateError)
open Logging (Line)

/-- How a process ends. -/
inductive Exit
  | clean
  | failed (error : BootstrapError)
  /-- The gates have changed, and the process is to be started anew. -/
  | gatesChanged (change : Change)
  | crashed (crash : Election.Crash)
deriving Repr, DecidableEq

def Exit.code : Exit → UInt8
  | clean => 0
  | failed _ => 1
  | gatesChanged _ => 0
  | crashed _ => 101

inductive Stage
  /-- The configuration of the cluster is to be loaded. -/
  | configuring
  /-- The signal handlers are to be installed. -/
  | installing (m : Manager)
  /-- The client for the gates is to be made. -/
  | connecting (m : Manager)
  /-- The first snapshot is waited for. -/
  | probing (m : Manager) (deadline : Instant)
  /-- There is a snapshot. -/
  | probed (m : Manager)
  | idling
  | managing (run : Manager.Run)
  | ended (exit : Exit)

inductive Action
  /-- Time passes. -/
  | pass (now : Instant)
  /-- The configuration of the cluster is loaded, or cannot be for a reason. -/
  | configure (failure : Option String)
  | install (failure : Option String)
  | connect (failure : Option String)
  /-- The first snapshot is noticed. -/
  | observe
  /-- The limit of the wait is noticed. -/
  | timeOut
  /-- A wait takes notice of the shutdown signal. -/
  | noticeShutdown
  | launch
  /-- The shutdown signal fires. -/
  | shutdown
  | clusterVersion (event : Watch.Event Api.ClusterVersion)
  | featureGate (event : Watch.Event Api.FeatureGate)
  /-- The accessor of the gates is to be woken. -/
  | wakeAccess
  /-- The accessor of the gates makes a step. -/
  | stepAccess
  | manage (action : Manager.Action)

structure Process where
  settings : CommandLine.Settings
  identity : String
  now : Instant
  following : Following
  stage : Stage
  shutdown : Bool := false
  /-- What was logged, the first line first. -/
  lines : List Line := []

/-- The target of the lines about the process as a whole. -/
def processTarget : String := "machine_api_migration"

/-- The line about the failure that ends a process. -/
def failureLine (error : BootstrapError) : Line :=
  ⟨.error, processTarget, error.stage ++ " failed: " ++ error.message⟩

/-- The line about the gates that the first snapshot knows. -/
def initializedLine (gates : Gates.Snapshot) : Line :=
  ⟨.info, "featuregates::probe", "FeatureGates initialized: " ++ gates.known.renderList⟩

/-- The line about the change that ends a process. -/
def changeLine (change : Change) : Line :=
  ⟨.info, "featuregates::access", "Exiting because feature gates changed: turned on " ++
    change.turnedOn.renderList ++ ", turned off " ++ change.turnedOff.renderList⟩

namespace Process

/-- A process that begins. -/
def begin (settings : CommandLine.Settings) (identity : String) (now : Instant) : Process where
  settings := settings
  identity := identity
  now := now
  following := { access := ⟨settings.releaseVersion, Gates.unknownVersion, none⟩ }
  stage := .configuring
  lines :=
    [enter .init, info ("Release version: " ++ settings.releaseVersion),
     info ("Managed namespace: " ++ settings.namespaceName)]

def exit? (p : Process) : Option Exit :=
  match p.stage with
  | .ended exit => some exit
  | _ => none

def log (p : Process) (lines : List Line) : Process := { p with lines := p.lines ++ lines }

def fail (p : Process) (error : BootstrapError) : Process :=
  { p.log [failureLine error] with stage := .ended (.failed error) }

def terminate (p : Process) : Process :=
  { p.log [enter .terminated] with stage := .ended .clean }

/-! ### Towards the gates -/

/-- The manager is made as soon as there is a configuration. -/
def configure (p : Process) (failure : Option String) : Option Process :=
  match p.stage with
  | .configuring =>
    match failure with
    | some reason => some (p.fail (.config reason))
    | none =>
      match Manager.create (managerOptions p.settings .machineApi) p.identity with
      | .error error => some (p.fail (.managerConstruction error))
      | .ok m => some { p with stage := .installing m }
  | _ => none

def install (p : Process) (failure : Option String) : Option Process :=
  match p.stage with
  | .installing m =>
    match failure with
    | some reason => some (p.fail (.signal reason))
    | none =>
      some { p.log [enter .configured, enter .probeWaiting] with stage := .connecting m }
  | _ => none

def connect (p : Process) (failure : Option String) : Option Process :=
  match p.stage with
  | .connecting m =>
    match failure with
    | some reason => some (p.fail (.ofProbe (.client reason)))
    | none => some { p with stage := .probing m (Instant.timer p.now Gates.waitLimit) }
  | _ => none

def observe (p : Process) : Option Process :=
  match p.stage with
  | .probing m _ =>
    if !p.following.access.isObserved then none
    else match p.following.access.snapshot with
      | .error error => some (p.fail (.ofProbe error))
      | .ok gates => some { p.log [initializedLine gates] with stage := .probed m }
  | _ => none

def timeOut (p : Process) : Option Process :=
  match p.stage with
  | .probing _ deadline => if deadline ≤ p.now then some (p.fail (.ofProbe .timedOut)) else none
  | _ => none

/-- The waits that end with the shutdown signal: the one for the gates, and the idle one. -/
def noticeShutdown (p : Process) : Option Process :=
  if !p.shutdown then none
  else match p.stage with
    | .probing _ _ =>
      some (p.log [info "Shutdown requested while waiting for feature gates"]).terminate
    | .idling => some p.terminate
    | _ => none

/-! ### With the gates -/

def launch (p : Process) : Option Process :=
  match p.stage with
  | .probed m =>
    match p.following.access.snapshot with
    | .error error => some (p.fail (.gateRead error))
    | .ok gates =>
      match Startup.launch gates m with
      | .error error => some (p.fail error)
      | .ok .idle => some { p.log idleLines with stage := .idling }
      | .ok (.manage m) =>
        let run := Manager.Run.begin m p.now
        let run := if p.shutdown then run.fire else run
        some { p.log runningLines with stage := .managing run }
  | _ => none

/-- The process after its manager has come to a state. -/
def afterManager (p : Process) (run : Manager.Run) : Process :=
  match run.stage with
  | .returned (.ok ()) => p.terminate
  | .returned (.error error) => p.fail (.runtime error)
  | .crashed crash => { p with stage := .ended (.crashed crash) }
  | _ => { p with stage := .managing run }

/-- Actions of the manager. Time and the signal belong to the process. -/
def manage (p : Process) (action : Manager.Action) : Option Process :=
  match p.stage, action with
  | _, .pass _ => none
  | _, .shutdown => none
  | .managing run, action => (run.step action).map p.afterManager
  | _, _ => none

/-! ### What happens around a process -/

def pass (p : Process) (now : Instant) : Option Process :=
  if now < p.now then none
  else match p.stage with
    | .managing run => some { p with now := now, stage := .managing { run with now := now } }
    | _ => some { p with now := now }

def fire (p : Process) : Process :=
  match p.stage with
  | .managing run => { p with shutdown := true, stage := .managing run.fire }
  | _ => { p with shutdown := true }

/-- Whether the process follows the cluster. -/
def follows (p : Process) : Bool :=
  match p.stage with
  | .probing _ _ => true
  | .probed _ => true
  | .idling => true
  | .managing _ => true
  | _ => false

/-- A change of the gates ends the process. -/
def onFollowing (p : Process) (f : Following) : Option Process :=
  if !p.follows then none
  else match f.changes with
    | [] => some { p with following := f }
    | change :: _ =>
      some { p.log [changeLine change] with following := f, stage := .ended (.gatesChanged change) }

/-- The process after an action, `none` when the action is not possible. The signal is noticed from
the installation of its handlers on. -/
def step (p : Process) : Action → Option Process
  | .pass now => p.pass now
  | .configure failure => p.configure failure
  | .install failure => p.install failure
  | .connect failure => p.connect failure
  | .observe => p.observe
  | .timeOut => p.timeOut
  | .noticeShutdown => p.noticeShutdown
  | .launch => p.launch
  | .shutdown =>
    match p.stage with
    | .configuring => none
    | .installing _ => none
    | .ended _ => none
    | _ => some p.fire
  | .clusterVersion event => p.onFollowing (p.following.onClusterVersion event)
  | .featureGate event => p.onFollowing (p.following.onFeatureGate event)
  | .wakeAccess => p.onFollowing p.following.wake
  | .stepAccess => p.onFollowing p.following.step
  | .manage action => p.manage action

/-- The process after a list of actions. -/
def steps (p : Process) (actions : List Action) : Option Process := actions.foldlM step p

end Process

end GatedManager.Startup
