import GatedManager.Cache.Options
import GatedManager.Election.Config
import GatedManager.Manager.Error
import GatedManager.Net.BindAddress
import GatedManager.Scheme

/-!
# Options of a manager

What a manager is made from, and the checks that come first: the election, the two addresses, the
cache, in this order.
-/

namespace GatedManager.Manager

structure Options where
  scheme : Scheme
  cache : Cache.Options
  election : Election.Config
  healthAddr : String
  metricsAddr : String
deriving Repr, DecidableEq

/-- Options that were checked, with the addresses to bind. -/
structure Plan where
  scheme : Scheme
  cache : Cache.Options
  /-- The election, when there is one. -/
  election : Option Election.Config
  health : Option Net.Socket
  metrics : Option Net.Socket
deriving DecidableEq

namespace Options

def bindAddress (addr : String) : Except ManagerError (Option Net.Socket) :=
  match Net.readBindAddress addr with
  | .error fault => .error (.invalidBindAddress addr fault.reason)
  | .ok socket => .ok socket

def plan (o : Options) : Except ManagerError Plan := do
  match o.election.validate with
  | .error fault => throw (.invalidElection fault.reason)
  | .ok () => pure ()
  let health ← bindAddress o.healthAddr
  let metrics ← bindAddress o.metricsAddr
  match o.cache.validate with
  | .error fault => throw (.invalidCache fault.reason)
  | .ok () => pure ()
  return ⟨o.scheme, o.cache, if o.election.enabled then some o.election else none, health, metrics⟩

end Options

end GatedManager.Manager
