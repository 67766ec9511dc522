import GatedManager.Gates.Wait

/-!
# Simulated waits for the feature gates

A cluster that lists the gates of one version only is looked at once, at a given instant.
-/

namespace GatedManager.Simulation

open Gates

structure GateWaitResult where
  wait : WaitResult
  /-- Whether a snapshot is published when the wait has ended. -/
  observed : Bool

/-- A cluster that lists gates for `version` alone. -/
def clusterOf (version : String) : Api.FeatureGate where
  metadata := { name := some Api.FeatureGate.objectName }
  spec := ⟨.standard, none⟩
  status := some ⟨[⟨version, [migrationGate], []⟩]⟩

/-- A process of `version` waits from the start of the clock until `deadline`. -/
def waitForGates (version listed : String) (deadline : Instant) (look cancelled : Option Instant) :
    GateWaitResult :=
  let (_, access) := (Access.mk version unknownVersion none).sync none (some (clusterOf listed))
  let observed := if access.isObserved then look else none
  let wait := Gates.wait 0 deadline observed cancelled
  ⟨wait, observed.any (· ≤ wait.at_)⟩

end GatedManager.Simulation
