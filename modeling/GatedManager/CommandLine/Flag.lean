/-!
# Flags

The flags of the command line: how each is spelled, how usage texts show it, and whether it is a
switch, which may stand without a value and takes one only after an equals sign.
-/

namespace GatedManager.CommandLine

inductive Flag
  | healthAddr
  | namespaceName
  | logToStderr
  | metricsBindAddr
  | leaderElect
  | leaseDuration
  | renewDeadline
  | retryPeriod
  | resourceLock
  | resourceName
  | resourceNamespace
  | verbosity
  | modules
  | releaseVersion
deriving Repr, DecidableEq

namespace Flag

def all : List Flag :=
  [healthAddr, namespaceName, logToStderr, metricsBindAddr, leaderElect, leaseDuration,
   renewDeadline, retryPeriod, resourceLock, resourceName, resourceNamespace, verbosity, modules,
   releaseVersion]

/-- The name after two hyphens. -/
def long : Flag → String
  | healthAddr => "health-addr"
  | namespaceName => "namespace"
  | logToStderr => "logtostderr"
  | metricsBindAddr => "metrics-bind-addr"
  | leaderElect => "leader-elect"
  | leaseDuration => "leader-elect-lease-duration"
  | renewDeadline => "leader-elect-renew-deadline"
  | retryPeriod => "leader-elect-retry-period"
  | resourceLock => "leader-elect-resource-lock"
  | resourceName => "leader-elect-resource-name"
  | resourceNamespace => "leader-elect-resource-namespace"
  | verbosity => "v"
  | modules => "vmodule"
  | releaseVersion => "release-version"

/-- The letter after one hyphen. -/
def short? : Flag → Option Char
  | verbosity => some 'v'
  | _ => none

/-- What stands for the value in a usage text. -/
def placeholder : Flag → String
  | healthAddr => "HEALTH_ADDR"
  | namespaceName => "NAMESPACE"
  | logToStderr => "LOGTOSTDERR"
  | metricsBindAddr => "METRICS_BIND_ADDR"
  | leaderElect => "LEADER_ELECT"
  | leaseDuration => "LEASE_DURATION"
  | renewDeadline => "RENEW_DEADLINE"
  | retryPeriod => "RETRY_PERIOD"
  | resourceLock => "RESOURCE_LOCK"
  | resourceName => "RESOURCE_NAME"
  | resourceNamespace => "RESOURCE_NAMESPACE"
  | verbosity => "VERBOSITY"
  | modules => "VMODULE"
  | releaseVersion => "RELEASE_VERSION"

/-- A switch is on or off; without a value it is on. -/
def isSwitch : Flag → Bool
  | logToStderr => true
  | leaderElect => true
  | _ => false

/-- The value of a flag that stands without one. -/
def missingValue? (flag : Flag) : Option String := if flag.isSwitch then some "true" else none

/-- The flag in a usage text. -/
def usage (flag : Flag) : String :=
  if flag.isSwitch then "--" ++ flag.long ++ "[=<" ++ flag.placeholder ++ ">]"
  else "--" ++ flag.long ++ " <" ++ flag.placeholder ++ ">"

def ofLong? (name : String) : Option Flag := all.find? (·.long = name)

def ofShort? (letter : Char) : Option Flag := all.find? (·.short? = some letter)

end Flag

end GatedManager.CommandLine
