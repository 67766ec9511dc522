import GatedManager.Gates.Snapshot
import GatedManager.Logging.Line
import GatedManager.Manager.Registration
import GatedManager.Startup.Error

/-!
# Launching

What a process does once it knows its gates: it runs its manager when the gate it is about is
enabled, and idles otherwise. The manager is given a liveness and a readiness check first, which
always pass. Each phase of the startup is announced by a line of the log.
-/

namespace GatedManager.Startup

open Logging (Line)

inductive Phase
  | init
  | configured
  | probeWaiting
  | idle
  | running
  | terminated
deriving Repr, DecidableEq

def Phase.name : Phase → String
  | init => "Init"
  | configured => "Configured"
  | probeWaiting => "ProbeWaiting"
  | idle => "Idle"
  | running => "Running"
  | terminated => "Terminated"

/-- The target of the lines about the startup. -/
def startupTarget : String := "machine_api_migration::startup"

def info (message : String) : Line := ⟨.info, startupTarget, message⟩

/-- The line that announces a phase. -/
def enter (phase : Phase) : Line := info ("Startup phase: " ++ phase.name)

def idleMessage : String :=
  Gates.migrationGate ++
    " feature gate is not enabled, nothing to do. Waiting for termination signal."

def idleLines : List Line := [enter .idle, info idleMessage]

def runningLines : List Line := [enter .running, info "starting manager"]

/-- The checks that a process adds to its manager. -/
def ownChecks : List (Health.Probe × Health.Check) :=
  [(.healthz, ⟨"health", none⟩), (.readyz, ⟨"check", none⟩)]

/-- The manager with the checks of this process. -/
def registerChecks (m : Manager) : Except BootstrapError Manager :=
  match ownChecks.foldlM (fun m (probe, check) => m.addCheck probe check) m with
  | .error error => .error (.healthRegistration error)
  | .ok m => .ok m

/-- What a process does next. -/
inductive Launch
  | idle
  | manage (m : Manager)

/-- Decides by the gates. -/
def launch (gates : Gates.Snapshot) (m : Manager) : Except BootstrapError Launch :=
  if gates.isEnabled Gates.migrationGate then (registerChecks m).map .manage else .ok .idle

end GatedManager.Startup
