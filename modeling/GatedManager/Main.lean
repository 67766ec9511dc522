import GatedManager.CommandLine.Usage
import GatedManager.Election.Identity
import GatedManager.Startup.Process

/-!
# The program

Reads the command line and the environment and takes a process through its startup. This layer has
no client for the API, so a startup ends where the configuration of the cluster is to be loaded.
-/

namespace GatedManager

open CommandLine (Settings)
open Logging (Filter Line)
open Startup (Process)

/-- The variable with the release version. -/
def releaseVariable : String := "RELEASE_VERSION"

/-- The variable with a filter that replaces the settings of the log. -/
def filterVariable : String := "RUST_LOG"

/-- Why the configuration of the cluster cannot be loaded. -/
def noClient : String := "there is no client for the API"

/-- Writes to one of the two streams. -/
def write (toStandardError : Bool) (text : String) : IO Unit :=
  if toStandardError then IO.eprintln text else IO.println text

/-- A random identity of this host. -/
def readIdentity : IO String := do
  let values ← Election.hostVariables.mapM fun name => do return (name, ← IO.getEnv name)
  let kernelName ← (some <$> IO.FS.readFile "/proc/sys/kernel/hostname") <|> pure none
  let host := Election.hostName (fun name => (values.lookup name).join) kernelName
  match Election.Uuid.ofRandom? (← IO.getRandomBytes 16).toList with
  | some id => return Election.identity host id
  | none => return host

/-- Takes a process through its startup and writes the lines that the filter keeps. -/
def runProcess (settings : Settings) (filter : Filter) : IO UInt8 := do
  let p := Process.begin settings (← readIdentity) 0
  let p := (p.configure (some noClient)).getD p
  for line in p.lines.filter filter.keeps do
    write settings.logToStderr line.render
  return (p.exit?.map (·.code)).getD 0

/-- Runs the program and gives its exit code. -/
def runProgram (args : List String) : IO UInt8 := do
  match CommandLine.parse (← IO.getEnv releaseVariable) args with
  | .error refusal =>
    write (refusal.exitCode ≠ 0) refusal.message
    return refusal.exitCode
  | .ok settings =>
    match Logging.filter (← IO.getEnv filterVariable) settings.verbosity settings.modules with
    | .error fault =>
      write true (Startup.BootstrapError.logging fault.message).message
      return 1
    | .ok filter => runProcess settings filter

end GatedManager

def main (args : List String) : IO UInt32 := do
  return (← GatedManager.runProgram args).toUInt32
