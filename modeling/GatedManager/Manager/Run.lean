import GatedManager.Cache.Objects
import GatedManager.Election.Campaign
import GatedManager.Manager.Registration
import GatedManager.Manager.Tasks

/-!
# Runs of a manager

A run binds its listeners, starts the cache and then leads: it campaigns for the lease when there
is an election, waits for the stores that the cache keeps one after the other, starts the runnables
in their order and keeps the lease until it has to stop. Servers and cache run in the background,
and so do the runnables in a group of their own.

The run ends by itself when a task fails or the lease is lost, and without an error when the
shutdown signal fires. It stops the runnables first and waits for them, then for the background.
A failure in the background is noticed at once while the run leads; it cuts the runnables off.

Whatever happens, in the run or around it, is an *action*. Several actions may be possible in one
state, and each order of them is a run.
-/

namespace GatedManager.Manager

open Api (AnyObject)
open Election (Campaign Elector)

inductive Server
  | health
  | metrics
deriving Repr, DecidableEq

/-- The background task of a server. -/
def Server.task : Server → String
  | health => "health probe server"
  | metrics => "metrics server"

/-- The background task of the cache. -/
def cacheTask : String := "cache"

/-- How a run ends. -/
abbrev Result := Except ManagerError Unit

inductive Stage
  /-- The listeners that are still to bind. -/
  | binding (listeners : List (Server × Net.Socket))
  | campaigning (campaign : Campaign)
  /-- The first of the stores that the cache keeps are ready, as many as the number says. -/
  | syncing (ready : Nat)
  | starting
  /-- The runnables run, and the lease is kept if there is one. -/
  | holding (campaign : Option Campaign)
  /-- The runnables were told to stop. -/
  | stopping (result : Result) (since : Instant)
  /-- The runnables are over, and the background was told to stop. -/
  | closing (result : Result) (since : Instant)
  | returned (result : Result)
  /-- The election met arithmetic without a result, which ends the process. -/
  | crashed (crash : Election.Crash)

/-- How a runnable ends by itself. -/
inductive Completion
  | clean
  | failed (reason : String)
  | panicked
deriving Repr, DecidableEq

/-- The ending of the task of a runnable. -/
def Completion.ending (name : String) : Completion → Ending
  | clean => .clean
  | failed reason => .failed (.runnable name reason)
  | panicked => .panicked

inductive Action
  /-- Time passes. -/
  | pass (now : Instant)
  /-- The next listener is bound, or cannot be for a reason. -/
  | bind (failure : Option String)
  /-- All listeners are bound: the cache starts, and the run begins to lead. -/
  | lead (clock : Timestamp)
  /-- The lease request is answered. -/
  | answer (answer : Election.Answer)
  /-- A timer of the campaign fires. -/
  | wake (clock : Timestamp)
  /-- The outcome of the campaign is taken. -/
  | conclude
  /-- An informer of the cache takes an input. -/
  | inform (cell : Nat) (input : Watch.Input AnyObject)
  /-- The cache sends the ticks that are due. -/
  | tick
  /-- The wait for the sync looks at its next store. -/
  | look
  /-- The next runnable is started; after the last one the run holds. -/
  | start
  /-- The shutdown signal fires. -/
  | shutdown
  /-- A runnable cancels its stop token, which is the one that everything watches. -/
  | halt
  /-- A run that waits takes notice of the stop. -/
  | noticeStop
  | serviceEnds (task : Nat) (ending : Ending)
  | runnableEnds (task : Nat) (completion : Completion)
  /-- The run looks at a background task that has ended. -/
  | lookAtService
  /-- The run looks at a runnable that has ended. -/
  | lookAtRunnable
  /-- Everything that was told to stop has ended. -/
  | drained
  /-- The time to stop is over. -/
  | giveUp

/-- How long tasks may take to stop. -/
def gracePeriod : Duration := .ofSeconds 30

structure Run where
  manager : Manager
  /-- The elector between two campaigns. -/
  elector : Option Elector
  cache : Cache
  now : Instant
  stage : Stage
  /-- Whether the shutdown signal has fired. -/
  shutdown : Bool := false
  /-- Whether everything was told to stop, by the signal or by the run itself. -/
  stopped : Bool := false
  bound : List Server := []
  background : TaskGroup := {}
  running : TaskGroup := {}

/-- The listeners of a plan, in the order in which they are bound. -/
def Plan.listeners (plan : Plan) : List (Server × Net.Socket) :=
  plan.health.toList.map (Server.health, ·) ++ plan.metrics.toList.map (Server.metrics, ·)

namespace Run

/-- A run that begins. -/
def begin (m : Manager) (now : Instant) : Run where
  manager := m
  elector := m.elector?
  cache :=
    { scheme := m.plan.scheme
      options := m.plan.cache
      cells := Cache.cellsOf m.plan.scheme m.plan.cache }
  now := now
  stage := .binding m.plan.listeners

def result? (r : Run) : Option Result :=
  match r.stage with
  | .returned result => some result
  | _ => none

/-- The campaign that goes on. -/
def campaign? (r : Run) : Option Campaign :=
  match r.stage with
  | .campaigning c => some c
  | .holding c => c
  | _ => none

/-- The run with its campaign in a new state. -/
def withCampaign (r : Run) (c : Campaign) : Run :=
  match r.stage with
  | .campaigning _ => { r with stage := .campaigning c }
  | .holding (some _) => { r with stage := .holding (some c) }
  | _ => r

/-- Sets the gauge of the lease. -/
def setLeader (r : Run) (leading : Bool) : Run :=
  match r.manager.plan.election with
  | none => r
  | some config =>
    let metrics := r.cache.metrics.setLeader config.leaseKey leading
    { r with cache := { r.cache with metrics := metrics } }

/-! ### The phases of a run -/

def bind (r : Run) (failure : Option String) : Option Run :=
  match r.stage with
  | .binding ((server, socket) :: listeners) =>
    match failure with
    | some reason =>
      some { r with
        stage := .returned (.error (.bind (String.ofList socket.render) reason))
        background := r.background.abort }
    | none =>
      some { r with
        stage := .binding listeners
        bound := r.bound ++ [server]
        background := r.background.spawn server.task }
  | _ => none

def lead (r : Run) (clock : Timestamp) : Option Run :=
  match r.stage with
  | .binding [] =>
    let r := { r with cache := r.cache.start r.now, background := r.background.spawn cacheTask }
    match r.elector with
    | none => some { r with stage := .syncing 0 }
    | some elector =>
      let r := r.setLeader false
      some { r with stage := .campaigning (.acquire elector r.stopped clock) }
  | _ => none

/-- The run stops leading: the runnables are told to stop. -/
def leave (r : Run) (result : Result) : Run :=
  { r with stopped := true, stage := .stopping result r.now }

/-- The run stops leading with no runnable to wait for: the background is told to stop. -/
def close (r : Run) (result : Result) : Run :=
  { r with stopped := true, stage := .closing result r.now }

def conclude (r : Run) : Option Run :=
  match r.stage with
  | .campaigning c =>
    match c.outcome? with
    | some .acquired =>
      let r := r.setLeader true
      some { r with elector := some c.elector, stage := .syncing 0 }
    | some _ => some (r.close (.ok ()))
    | none => none
  | .holding (some c) =>
    match c.outcome? with
    | some .lost =>
      let error := ManagerError.leaderElectionLost (Election.lossReason c.elector.config)
      some ((r.setLeader false).leave (.error error))
    | some _ => some (r.leave (.ok ()))
    | none => none
  | _ => none

/-- A store that is ready lets the wait go on, and the last one ends it. One that will never be
ready fails it. -/
def look (r : Run) : Option Run :=
  match r.stage with
  | .syncing ready =>
    match r.cache.kept[ready]? with
    | none => some { r with stage := .starting }
    | some cell =>
      if cell.informer.reflector.ready then some { r with stage := .syncing (ready + 1) }
      else if r.cache.phase = .ended then some (r.close (.error (.cacheSync Cache.neverSynced)))
      else none
  | _ => none

def start (r : Run) : Option Run :=
  match r.stage with
  | .starting =>
    match r.manager.runnables[r.running.spawned]? with
    | some name => some { r with running := r.running.spawn name }
    | none =>
      let campaign := r.elector.map fun elector => Campaign.hold elector r.stopped r.now
      some { r with stage := .holding campaign }
  | _ => none

/-- The waits that end with the stop itself: the one for the sync, the one that holds without an
election, and the pauses and rests of a campaign. A wait whose other end has come as well may go on
with that one instead. -/
def noticeStop (r : Run) : Option Run :=
  if !r.stopped then none
  else match r.stage with
    | .syncing _ => some (r.close (.ok ()))
    | .holding none => some (r.leave (.ok ()))
    | _ =>
      match r.campaign? with
      | some c => if c.isIdle then some (r.withCampaign c.cancel) else none
      | none => none

/-! ### What happens around a run -/

/-- Everything is told to stop, the campaign too. -/
def halt (r : Run) : Run :=
  let r := { r with stopped := true }
  match r.campaign? with
  | some c => r.withCampaign c.signal
  | none => r

/-- The shutdown signal tells everything to stop. -/
def fire (r : Run) : Run := { r.halt with shutdown := true }

def answer (r : Run) (answer : Election.Answer) : Option Run :=
  match r.campaign? with
  | none => none
  | some c =>
    if c.attempt?.isNone then none
    else match c.answer answer r.now with
      | .error crash => some { r with stage := .crashed crash }
      | .ok c => some (r.withCampaign c)

def wake (r : Run) (clock : Timestamp) : Option Run :=
  match r.campaign? with
  | none => none
  | some c =>
    if c.isDue r.now then some (r.withCampaign (c.wake r.now clock)) else none

/-- Whether a background task can end like this. The servers run until they are told to stop, and
the cache does so too as soon as it has an informer; it never fails without a panic. -/
def mayEnd (r : Run) (name : String) (ending : Ending) : Bool :=
  if name = cacheTask then
    ending = .panicked || (ending = .clean && (r.stopped || r.cache.cells.isEmpty))
  else ending ≠ .clean || r.stopped

def serviceEnds (r : Run) (task : Nat) (ending : Ending) : Option Run :=
  if task ∉ r.background.live then none
  else match r.background.name? task with
    | none => none
    | some name =>
      if r.mayEnd name ending then
        some { r with
          background := r.background.finish task ending
          cache := if name = cacheTask then r.cache.stop else r.cache }
      else none

def runnableEnds (r : Run) (task : Nat) (completion : Completion) : Option Run :=
  if task ∉ r.running.live then none
  else match r.manager.runnables[task]? with
    | none => none
    | some name => some { r with running := r.running.finish task (completion.ending name) }

/-- Whether the run leads and waits for something, so that it notices failures behind it. -/
def notices (r : Run) : Bool :=
  match r.stage with
  | .campaigning _ => true
  | .syncing _ => true
  | .holding _ => true
  | .stopping _ _ => true
  | _ => false

/-- A failure in the background ends the lead at once: the runnables are cut off. -/
def lookAtService (r : Run) : Option Run :=
  if !r.notices then none
  else match r.background.look? with
    | none => none
    | some (none, background) => some { r with background := background }
    | some (some error, background) =>
      let r := { r with background := background, running := r.running.abort }
      some (r.close (.error error))

def lookAtRunnable (r : Run) : Option Run :=
  match r.stage with
  | .holding _ =>
    match r.running.look? with
    | none => none
    | some (none, running) => some { r with running := running }
    | some (some error, running) => some ({ r with running := running }.leave (.error error))
  | _ => none

def drained (r : Run) : Option Run :=
  match r.stage with
  | .stopping result _ => if r.running.isDone then some (r.close result) else none
  | .closing result _ =>
    if r.background.isDone then some { r with stage := .returned result } else none
  | _ => none

/-- What has not stopped in time is cut off. -/
def giveUp (r : Run) : Option Run :=
  match r.stage with
  | .stopping result since =>
    if since + gracePeriod.nanos ≤ r.now then
      some ({ r with running := r.running.abort }.close result)
    else none
  | .closing result since =>
    if since + gracePeriod.nanos ≤ r.now then
      some { r with stage := .returned result, background := r.background.abort }
    else none
  | _ => none

/-- The run after an action, `none` when the action is not possible. -/
def step (r : Run) : Action → Option Run
  | .pass now => if r.now ≤ now then some { r with now := now } else none
  | .bind failure => r.bind failure
  | .lead clock => r.lead clock
  | .answer answer => r.answer answer
  | .wake clock => r.wake clock
  | .conclude => r.conclude
  | .inform cell input => some { r with cache := r.cache.take cell input r.now }
  | .tick => some { r with cache := r.cache.tickTo r.now }
  | .look => r.look
  | .start => r.start
  | .shutdown => some r.fire
  | .halt => if r.running.spawned = 0 then none else some r.halt
  | .noticeStop => r.noticeStop
  | .serviceEnds task ending => r.serviceEnds task ending
  | .runnableEnds task completion => r.runnableEnds task completion
  | .lookAtService => r.lookAtService
  | .lookAtRunnable => r.lookAtRunnable
  | .drained => r.drained
  | .giveUp => r.giveUp

/-- The run after a list of actions. -/
def steps (r : Run) (actions : List Action) : Option Run := actions.foldlM step r

end Run

end GatedManager.Manager
