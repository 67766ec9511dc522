import GatedManager.CommandLine.Parser
import GatedManager.Startup.Process

/-!
# Simulated processes

A process runs on a host that no API server answers, and gets signals. What it logs is filtered and
written to one of its two streams.
-/

namespace GatedManager.Simulation

open CommandLine (Refusal Settings)
open Logging (Filter)
open Startup (Process)

/-- What a script does to a process: it waits for a line that contains a text, and may then send a
signal that tells the process to end. -/
structure ProcessAction where
  awaited : String
  signals : Bool

/-- A host for a process. -/
structure ProcessHost where
  /-- Whether the configuration of the cluster can be loaded. -/
  configured : Bool
  /-- What replaces the filter of the settings. -/
  filter : Option String
  actions : List ProcessAction

structure ProcessReport where
  exitCode : UInt8
  standardOutput : List String := []
  standardError : List String := []

/-- The first line of a text, and the others as far as they report that something is not possible. -/
def outputLines (text : String) : List String :=
  match Text.splitOn '\n' text.toList with
  | [] => []
  | first :: rest =>
    String.ofList first ::
      (rest.filter ("unable to ".toList.isPrefixOf ·)).map String.ofList

namespace ProcessHost

/-- The reason why there is no configuration. -/
def noConfiguration : String := "no usable configuration was found"

/-- The end of the part of a message that is the same on every host. -/
def configurationMessage : String := "unable to load cluster config"

/-- A line without what only this host can say. -/
def abridge (line : Logging.Line) : Logging.Line :=
  let message := line.message.toList
  let mark := "config failed: " ++ configurationMessage
  if mark.toList.isPrefixOf message then { line with message := mark } else line

/-- The lines that a filter keeps of what a process has logged. -/
def written (filter : Filter) (p : Process) : List String :=
  (p.lines.filter filter.keeps).flatMap fun line => outputLines (abridge line).render

def contains (text : List Char) : List Char → Bool
  | [] => text.isEmpty
  | c :: rest => text.isPrefixOf (c :: rest) || contains text rest

/-- The process once it waits for its gates, or ended before. -/
def start (h : ProcessHost) (p : Process) : Option Process := do
  let p ← p.configure (if h.configured then none else some noConfiguration)
  if p.exit?.isSome then return p
  let p ← p.install none
  p.connect none

/-- Takes the actions one after the other; `none` when a line is awaited in vain. -/
def act (filter : Filter) (p : Process) : List ProcessAction → Option Process
  | [] => some p
  | action :: rest =>
    if (written filter p).any fun line => contains action.awaited.toList line.toList then
      let p := if action.signals then
          (p.fire.noticeShutdown).getD p
        else p
      act filter p rest
    else none

/-- Runs a process to its end; `none` when it does not end. -/
def process (h : ProcessHost) (filter : Filter) (p : Process) : Option Process := do
  let p ← h.start p
  if p.exit?.isSome then return p
  let p ← act filter p h.actions
  if p.exit?.isSome then return p else none

/-- Runs the program with the given settings. -/
def run (h : ProcessHost) (settings : Settings) : Option ProcessReport :=
  match Logging.filter h.filter settings.verbosity settings.modules with
  | .error fault =>
    let error := Startup.BootstrapError.logging fault.message
    some { exitCode := 1, standardError := outputLines error.message }
  | .ok filter =>
    (h.process filter (Process.begin settings "" 0)).map fun p =>
      let lines := written filter p
      let code := (p.exit?.map (·.code)).getD 0
      if settings.logToStderr then { exitCode := code, standardError := lines }
      else { exitCode := code, standardOutput := lines }

end ProcessHost

/-- Runs the program with what became of its command line. -/
def runProcess (h : ProcessHost) : Except Refusal Settings → Option ProcessReport
  | .error refusal => some { exitCode := refusal.exitCode }
  | .ok settings => h.run settings

end GatedManager.Simulation
