import GatedManager.Gates.Error
import GatedManager.Manager.Error

/-!
# Failures of the startup

Each failure belongs to a stage of the startup and may have another failure as its source.
-/

namespace GatedManager.Startup

open Gates (GateError)
open Manager (ManagerError)

inductive BootstrapError
  | logging (reason : String)
  | config (reason : String)
  | managerConstruction (source : ManagerError)
  | signal (reason : String)
  | gateTimeout (source : GateError)
  | gateProbe (source : GateError)
  | gateRead (source : GateError)
  | healthRegistration (source : ManagerError)
  | runtime (source : ManagerError)
deriving Repr, DecidableEq

namespace BootstrapError

/-- The failure of a probe. -/
def ofProbe : GateError → BootstrapError
  | .timedOut => gateTimeout .timedOut
  | error => gateProbe error

/-- The stage of the startup that failed. -/
def stage : BootstrapError → String
  | logging _ => "logging"
  | config _ => "config"
  | managerConstruction _ => "manager construction"
  | signal _ => "signal handler"
  | gateTimeout _ => "feature gate probe"
  | gateProbe _ => "feature gate probe"
  | gateRead _ => "feature gate read"
  | healthRegistration _ => "health registration"
  | runtime _ => "manager"

def message : BootstrapError → String
  | logging reason => "unable to set up logging: " ++ reason
  | config reason => "unable to load cluster config: " ++ reason
  | managerConstruction source => "unable to create manager: " ++ source.message
  | signal reason => "unable to install signal handler: " ++ reason
  | gateTimeout source => source.message
  | gateProbe source => "unable to start feature gate accessor: " ++ source.message
  | gateRead source => "unable to read feature gates: " ++ source.message
  | healthRegistration source => "unable to set up health check: " ++ source.message
  | runtime source => "problem running manager: " ++ source.message

/-- The message of the failure behind this one. -/
def sourceMessage? : BootstrapError → Option String
  | logging _ => none
  | config reason => some reason
  | signal reason => some reason
  | managerConstruction source => some source.message
  | gateTimeout source => some source.message
  | gateProbe source => some source.message
  | gateRead source => some source.message
  | healthRegistration source => some source.message
  | runtime source => some source.message

end BootstrapError

end GatedManager.Startup
