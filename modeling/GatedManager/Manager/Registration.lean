import GatedManager.Election.Elector
import GatedManager.Health.Endpoints
import GatedManager.Manager.Options

/-!
# Managers

A manager hosts the cache, the election, the two endpoints and the runnables of one process. It is
made from options that were checked; checks and runnables are registered before it is started.
-/

namespace GatedManager

open Manager (ManagerError Plan)

structure Manager where
  plan : Plan
  /-- Who this replica is in the election. -/
  identity : String
  probes : Health.Probes := {}
  /-- The names of the runnables, in the order in which they were added. -/
  runnables : List String := []

namespace Manager

def create (options : Options) (identity : String) : Except ManagerError Manager :=
  options.plan.map fun plan => { plan := plan, identity := identity }

def electionEnabled (m : Manager) : Bool := m.plan.election.isSome

def elector? (m : Manager) : Option Election.Elector :=
  m.plan.election.map fun config => { identity := m.identity, config := config }

/-- Registers a check with one of the probes. -/
def addCheck (m : Manager) (probe : Health.Probe) (check : Health.Check) :
    Except ManagerError Manager :=
  match (m.probes.get probe).add check with
  | .error fault => .error (.checkRegistration probe.name check.name fault.reason)
  | .ok checks => .ok { m with probes := m.probes.set checks probe }

/-- Adds a runnable. -/
def add (m : Manager) (name : String) : Manager := { m with runnables := m.runnables ++ [name] }

end Manager

end GatedManager
