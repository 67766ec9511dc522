import GatedManager.CommandLine.Flag
import GatedManager.Duration.Reader
import GatedManager.Election.Config
import GatedManager.Gates.Access

/-!
# Settings

What the flags set, with the values that hold when a flag is not given, and how the text of each
flag is read.
-/

namespace GatedManager.CommandLine

/-- The namespace that is managed and where a leader is elected. -/
def defaultNamespace : String := "openshift-cluster-api"

structure Settings where
  healthAddr : String := ":9441"
  namespaceName : String := defaultNamespace
  logToStderr : Bool := true
  metricsBindAddr : String := ":8081"
  leaderElect : Bool := true
  leaseDuration : Duration := .ofSeconds 137
  renewDeadline : Duration := .ofSeconds 107
  retryPeriod : Duration := .ofSeconds 26
  resourceLock : String := Election.leasesLock
  resourceName : String := "machine-api-migration-leader"
  resourceNamespace : String := defaultNamespace
  verbosity : Nat := 0
  modules : String := ""
  releaseVersion : String := Gates.unknownVersion
deriving Repr, DecidableEq

/-- Why a text is no value of its flag. -/
inductive ValueFault
  /-- Only `true` and `false` are values of a switch. -/
  | notASwitchValue
  | numeral (fault : Text.NumeralFault)
  | verbosityOutOfRange (n : Int)
  | duration (input : String) (fault : Duration.Fault)
deriving Repr, DecidableEq

/-- The highest verbosity. -/
def maxVerbosity : Nat := 10

/-- The text of a fault, for those that have one. -/
def ValueFault.reason? : ValueFault → Option String
  | notASwitchValue => none
  | numeral fault => some fault.reason
  | verbosityOutOfRange n => some (toString n ++ " is not in 0..=" ++ toString maxVerbosity)
  | duration input fault => some (fault.message input)

def readSwitch (text : String) : Except ValueFault Bool :=
  if text = "true" then .ok true
  else if text = "false" then .ok false
  else .error .notASwitchValue

def readVerbosity (text : String) : Except ValueFault Nat :=
  match Text.readSigned 63 text.toList with
  | .error fault => .error (.numeral fault)
  | .ok n => if 0 ≤ n ∧ n ≤ maxVerbosity then .ok n.toNat else .error (.verbosityOutOfRange n)

def readDuration (text : String) : Except ValueFault Duration :=
  match Duration.read text with
  | .error fault => .error (.duration text fault)
  | .ok d => .ok d

namespace Settings

/-- The settings with the value that a text gives to a flag. -/
def set (s : Settings) (flag : Flag) (text : String) : Except ValueFault Settings :=
  match flag with
  | .healthAddr => .ok { s with healthAddr := text }
  | .namespaceName => .ok { s with namespaceName := text }
  | .logToStderr => (readSwitch text).map fun b => { s with logToStderr := b }
  | .metricsBindAddr => .ok { s with metricsBindAddr := text }
  | .leaderElect => (readSwitch text).map fun b => { s with leaderElect := b }
  | .leaseDuration => (readDuration text).map fun d => { s with leaseDuration := d }
  | .renewDeadline => (readDuration text).map fun d => { s with renewDeadline := d }
  | .retryPeriod => (readDuration text).map fun d => { s with retryPeriod := d }
  | .resourceLock => .ok { s with resourceLock := text }
  | .resourceName => .ok { s with resourceName := text }
  | .resourceNamespace => .ok { s with resourceNamespace := text }
  | .verbosity => (readVerbosity text).map fun n => { s with verbosity := n }
  | .modules => .ok { s with modules := text }
  | .releaseVersion => .ok { s with releaseVersion := text }

/-- The settings of the election. -/
def election (s : Settings) : Election.Config where
  enabled := s.leaderElect
  leaseDuration := s.leaseDuration
  renewDeadline := s.renewDeadline
  retryPeriod := s.retryPeriod
  resourceLock := s.resourceLock
  resourceName := s.resourceName
  resourceNamespace := s.resourceNamespace

end Settings

end GatedManager.CommandLine
