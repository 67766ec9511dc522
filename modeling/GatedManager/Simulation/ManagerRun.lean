import GatedManager.Startup.Process

/-!
# Simulated managers

A manager runs on a host that no API server answers, so every request fails at once: the cache
never gets a list and the lease is never acquired. Everything else happens as a script says. All
that can happen without a timer happens at once, and the run is then looked at.
-/

namespace GatedManager.Simulation

open Manager (Action Completion Ending ManagerError Run Server Stage)
open Startup (BootstrapError)

/-- What a runnable of a script does once all of them have been started. -/
inductive Behaviour
  /-- It runs until it is told to stop. -/
  | persists
  | returns
  | fails (reason : String)
  | panics
deriving Repr, DecidableEq

def Behaviour.completion? (stopped : Bool) : Behaviour → Option Completion
  | persists => if stopped then some .clean else none
  | returns => some .clean
  | fails reason => some (.failed reason)
  | panics => some .panicked

/-- A host for a manager. -/
structure Host where
  /-- What the runnables do, in their order. -/
  behaviours : List Behaviour
  /-- The servers whose port is in use. -/
  conflicts : List Server

namespace Host

/-- The text of a failure to bind a port that is in use. -/
def portInUse : String := "address in use"

/-- The time that attempts on the lease read. No request is ever made with it. -/
def clock : Timestamp := ⟨0, 0⟩

def binds (h : Host) (r : Run) : List Action :=
  match r.stage with
  | .binding ((server, _) :: _) => [.bind (if server ∈ h.conflicts then some portInUse else none)]
  | .binding [] => [.lead clock]
  | _ => []

/-- The answer to any request of an attempt. -/
def refusal : Election.Attempt → Election.Answer
  | .reading _ => .read (.error .unreachable)
  | _ => .written (.error .unreachable)

def answers (r : Run) : List Action :=
  match r.campaign?.bind (·.attempt?) with
  | some attempt => [.answer (refusal attempt)]
  | none => []

/-- Informers begin, and their first request fails. -/
def informs (r : Run) : List Action :=
  match r.cache.phase with
  | .running _ =>
    r.cache.cells.zipIdx.filterMap fun (cell, index) =>
      if cell.informer.isPaused r.now then none
      else match cell.informer.stage with
        | .idle => some (.inform index .go)
        | .listing _ => some (.inform index .refused)
        | _ => none
  | _ => []

/-- Background tasks that end by themselves. -/
def services (r : Run) : List Action :=
  r.background.live.filterMap fun task =>
    if ((r.background.name? task).any fun name => r.mayEnd name .clean) then
      some (.serviceEnds task .clean)
    else none

/-- Runnables that end by themselves; none does before all of them have been started. -/
def completions (h : Host) (r : Run) : List Action :=
  if r.running.spawned < r.manager.runnables.length then []
  else r.running.live.filterMap fun task =>
    (h.behaviours[task]?.bind (·.completion? r.stopped)).map (.runnableEnds task ·)

/-- What may happen next, by urgency. -/
def choices (h : Host) (r : Run) : List Action :=
  h.binds r ++ answers r ++ informs r ++ [.conclude, .noticeStop, .look, .start] ++
    h.completions r ++ [.lookAtRunnable] ++ services r ++ [.lookAtService, .drained]

/-- The first choice that is possible. -/
def next? (h : Host) (r : Run) : Option Run := (h.choices r).findSome? r.step

/-- Lets everything happen that can. -/
def settle (h : Host) : Nat → Run → Run
  | 0, r => r
  | fuel + 1, r =>
    match h.next? r with
    | none => r
    | some r => h.settle fuel r

/-- A bound on what happens until a run waits: a few steps for each task, store and informer. -/
def fuel (r : Run) : Nat := 4 * (r.manager.runnables.length + r.cache.cells.length) + 40

def run (h : Host) (r : Run) : Run := h.settle (fuel r) r

end Host

/-- When the shutdown signal fires. -/
inductive Trigger
  /-- Before the start. -/
  | before
  /-- As soon as all runnables have been started. -/
  | running
  /-- After a while. -/
  | idle
  /-- At an event that does not happen here. -/
  | never
deriving Repr, DecidableEq

structure ManagerReport where
  result : Except BootstrapError Unit
  started : List String := []
  /-- The runnables that ended without an error. -/
  stopped : List String := []
  gaugesAtTrigger : List String := []
  gaugesAtEnd : List String := []
  runningAtTrigger : Bool := true
  lines : List Logging.Line := []

/-- Whether a trigger is pulled in a run that waits or has ended. -/
def Trigger.isPulled (trigger : Trigger) (r : Run) : Bool :=
  match trigger with
  | .before => true
  | .idle => true
  | .running => r.running.spawned = r.manager.runnables.length
  | .never => false

/-- The names of the runnables that were started. -/
def startedNames (r : Run) : List String := r.manager.runnables.take r.running.spawned

/-- The names of the runnables that end cleanly among those that were started. -/
def stoppedNames (h : Host) (r : Run) : List String :=
  ((startedNames r).zip h.behaviours).filterMap fun (name, behaviour) =>
    if behaviour.completion? true = some .clean then some name else none

/-- The report of a run that has ended. -/
def reportOf (h : Host) (atTrigger atEnd : Run) (result : Manager.Result) : ManagerReport where
  result := match result with
    | .ok () => .ok ()
    | .error error => .error (.runtime error)
  started := startedNames atEnd
  stopped := stoppedNames h atEnd
  gaugesAtTrigger := atTrigger.cache.metrics.leaderLines
  gaugesAtEnd := atEnd.cache.metrics.leaderLines
  runningAtTrigger := atTrigger.result?.isNone

/-- Runs a manager to its end; `none` when it does not end. -/
def runManager (h : Host) (m : Manager) (trigger : Trigger) : Option ManagerReport :=
  let atTrigger := if trigger = .before then Run.begin m 0 else h.run (Run.begin m 0)
  let atEnd := match atTrigger.result? with
    | some _ => atTrigger
    | none => if trigger.isPulled atTrigger then h.run atTrigger.fire else atTrigger
  atEnd.result?.map (reportOf h atTrigger atEnd)

/-- The report of a process that idles until its shutdown signal fires. -/
def idleReport (m : Manager) (trigger : Trigger) : Option ManagerReport :=
  if trigger.isPulled (Run.begin m 0) then
    some { result := .ok (), lines := Startup.idleLines ++ [Startup.enter .terminated] }
  else none

/-- Launches a manager with the given gates; `none` when it does not end. -/
def launchManager (h : Host) (m : Manager) (gates : Gates.Snapshot) (trigger : Trigger) :
    Option ManagerReport :=
  match Startup.launch gates m with
  | .error error => some { result := .error error, runningAtTrigger := trigger = .before }
  | .ok .idle => idleReport m trigger
  | .ok (.manage m) =>
    (runManager h m trigger).map fun report =>
      let terminated := match report.result with
        | .ok () => [Startup.enter .terminated]
        | .error _ => []
      { report with lines := Startup.runningLines ++ terminated }

end GatedManager.Simulation
