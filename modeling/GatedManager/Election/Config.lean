import GatedManager.Duration
import GatedManager.Text.Quoted

/-!
# Settings of an election

A replica campaigns for a lease with three durations: how long a candidate waits after the last
renewal it saw, how long a holder goes on trying to renew, and the pause between attempts. They
must descend, with a margin of a fifth between the last two.
-/

namespace GatedManager.Election

/-- The only kind of lock there is. -/
def leasesLock : String := "leases"

structure Config where
  enabled : Bool := false
  leaseDuration : Duration := .ofSeconds 15
  renewDeadline : Duration := .ofSeconds 10
  retryPeriod : Duration := .ofSeconds 2
  resourceLock : String := leasesLock
  resourceName : String := ""
  resourceNamespace : String := ""
deriving Repr, DecidableEq

/-- What is wrong with the settings. -/
inductive ConfigFault
  | leaseNotAboveRenew (lease renew : Duration)
  | renewNotAboveRetry (renew retry : Duration)
  | noRetryPeriod
  | unsupportedLock (lock : String)
  | noName
  | noNamespace
deriving Repr, DecidableEq

def ConfigFault.reason : ConfigFault → String
  | leaseNotAboveRenew lease renew =>
    "leaseDuration (" ++ lease.render ++ ") must be greater than renewDeadline (" ++
      renew.render ++ ")"
  | renewNotAboveRetry renew retry =>
    "renewDeadline (" ++ renew.render ++ ") must be greater than retryPeriod*JitterFactor (" ++
      retry.render ++ "*1.2)"
  | noRetryPeriod => "retryPeriod must be greater than zero"
  | unsupportedLock lock =>
    "unsupported resource lock " ++ Text.quoted lock ++ ", only " ++ Text.quoted leasesLock ++
      " is supported"
  | noName => "resource name must not be empty"
  | noNamespace => "resource namespace must not be empty"

namespace Config

/-- How much longer than a retry period the renew deadline must be. -/
def jitterFactor : Float := 1.2

/-- The first thing wrong with the settings. Settings that are switched off are always right. -/
def validate (config : Config) : Except ConfigFault Unit :=
  if !config.enabled then .ok ()
  else if config.leaseDuration.nanos ≤ config.renewDeadline.nanos then
    .error (.leaseNotAboveRenew config.leaseDuration config.renewDeadline)
  else if config.renewDeadline.toSeconds ≤ jitterFactor * config.retryPeriod.toSeconds then
    .error (.renewNotAboveRetry config.renewDeadline config.retryPeriod)
  else if config.retryPeriod.nanos = 0 then .error .noRetryPeriod
  else if config.resourceLock ≠ leasesLock then .error (.unsupportedLock config.resourceLock)
  else if config.resourceName = "" then .error .noName
  else if config.resourceNamespace = "" then .error .noNamespace
  else .ok ()

/-- Namespace and name of the lease. -/
def leaseKey (config : Config) : String := config.resourceNamespace ++ "/" ++ config.resourceName

end Config

end GatedManager.Election
