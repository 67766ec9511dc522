import GatedManager.Manager.Run

/-!
# What a step of a run does

`Proceeds` lists the ways in which a run goes on by an action, with everything that decides between
them. Facts about runs are proved from this list and do not open the functions behind it.
-/

namespace GatedManager.Manager.Run

open Api (AnyObject)
open Election (Campaign Crash Elector Outcome)

/-- The ways in which a run goes on. -/
inductive Proceeds (r : Run) : Action → Run → Prop
  | passed {now : Instant} (later : r.now ≤ now) : Proceeds r (.pass now) { r with now := now }
  -- Binding the listeners, and then leading.
  | bound {server : Server} {socket : Net.Socket} {listeners : List (Server × Net.Socket)}
      (binding : r.stage = .binding ((server, socket) :: listeners)) :
      Proceeds r (.bind none)
        { r with
          stage := .binding listeners
          bound := r.bound ++ [server]
          background := r.background.spawn server.task }
  | unbound {server : Server} {socket : Net.Socket} {listeners : List (Server × Net.Socket)}
      (binding : r.stage = .binding ((server, socket) :: listeners)) (reason : String) :
      Proceeds r (.bind (some reason))
        { r with
          stage := .returned (.error (.bind (String.ofList socket.render) reason))
          background := r.background.abort }
  /-- There is no election. -/
  | unopposed (binding : r.stage = .binding []) (alone : r.elector = none) (clock : Timestamp) :
      Proceeds r (.lead clock)
        { r with
          cache := r.cache.start r.now
          background := r.background.spawn cacheTask
          stage := .syncing 0 }
  | campaigned {elector : Elector} (binding : r.stage = .binding [])
      (stands : r.elector = some elector) (clock : Timestamp) :
      Proceeds r (.lead clock)
        { setLeader { r with
            cache := r.cache.start r.now
            background := r.background.spawn cacheTask } false with
          stage := .campaigning (.acquire elector r.stopped clock) }
  -- The campaign goes on.
  | answered {c c' : Campaign} {answer : Election.Answer} (ongoing : r.campaign? = some c)
      (waits : c.attempt?.isSome) (goes_on : c.answer answer r.now = .ok c') :
      Proceeds r (.answer answer) (r.withCampaign c')
  | crashed {c : Campaign} {answer : Election.Answer} {crash : Crash}
      (ongoing : r.campaign? = some c) (waits : c.attempt?.isSome)
      (fails : c.answer answer r.now = .error crash) :
      Proceeds r (.answer answer) { r with stage := .crashed crash }
  | woken {c : Campaign} (ongoing : r.campaign? = some c) (due : c.isDue r.now)
      (clock : Timestamp) : Proceeds r (.wake clock) (r.withCampaign (c.wake r.now clock))
  | acquired {c : Campaign} (campaigning : r.stage = .campaigning c)
      (outcome : c.outcome? = some .acquired) :
      Proceeds r .conclude { r.setLeader true with elector := some c.elector, stage := .syncing 0 }
  | abandoned {c : Campaign} {outcome : Outcome} (campaigning : r.stage = .campaigning c)
      (is_outcome : c.outcome? = some outcome) (other : outcome ≠ .acquired) :
      Proceeds r .conclude (r.close (.ok ()))
  | lost {c : Campaign} (holding : r.stage = .holding (some c)) (outcome : c.outcome? = some .lost) :
      Proceeds r .conclude ((r.setLeader false).leave
        (.error (.leaderElectionLost (Election.lossReason c.elector.config))))
  | released {c : Campaign} {outcome : Outcome} (holding : r.stage = .holding (some c))
      (is_outcome : c.outcome? = some outcome) (other : outcome ≠ .lost) :
      Proceeds r .conclude (r.leave (.ok ()))
  -- The cache works, and the run waits for it.
  | informed (cell : Nat) (input : Watch.Input AnyObject) :
      Proceeds r (.inform cell input) { r with cache := r.cache.take cell input r.now }
  | ticked : Proceeds r .tick { r with cache := r.cache.tickTo r.now }
  | synced {ready : Nat} (syncing : r.stage = .syncing ready)
      (all : r.cache.kept[ready]? = none) : Proceeds r .look { r with stage := .starting }
  | found {ready : Nat} {cell : Cache.Cell} (syncing : r.stage = .syncing ready)
      (is_cell : r.cache.kept[ready]? = some cell)
      (is_ready : cell.informer.reflector.ready) :
      Proceeds r .look { r with stage := .syncing (ready + 1) }
  | unsynced {ready : Nat} {cell : Cache.Cell} (syncing : r.stage = .syncing ready)
      (is_cell : r.cache.kept[ready]? = some cell)
      (unready : cell.informer.reflector.ready = false) (ended : r.cache.phase = .ended) :
      Proceeds r .look (r.close (.error (.cacheSync Cache.neverSynced)))
  -- The runnables are started.
  | started {name : String} (starting : r.stage = .starting)
      (next : r.manager.runnables[r.running.spawned]? = some name) :
      Proceeds r .start { r with running := r.running.spawn name }
  | held (starting : r.stage = .starting) (all : r.manager.runnables[r.running.spawned]? = none) :
      Proceeds r .start
        { r with
          stage := .holding (r.elector.map fun elector => .hold elector r.stopped r.now) }
  -- Everything is told to stop.
  | shutdown : Proceeds r .shutdown r.fire
  | halted (some_started : r.running.spawned ≠ 0) : Proceeds r .halt r.halt
  | stoppedSyncing {ready : Nat} (stopped : r.stopped) (syncing : r.stage = .syncing ready) :
      Proceeds r .noticeStop (r.close (.ok ()))
  | stoppedHolding (stopped : r.stopped) (holding : r.stage = .holding none) :
      Proceeds r .noticeStop (r.leave (.ok ()))
  | stoppedCampaign {c : Campaign} (stopped : r.stopped) (ongoing : r.campaign? = some c)
      (idle : c.isIdle) : Proceeds r .noticeStop (r.withCampaign c.cancel)
  -- Tasks end, and the run looks at them.
  | serviceEnded {task : Nat} {name : String} {ending : Ending} (live : task ∈ r.background.live)
      (named : r.background.name? task = some name) (may : r.mayEnd name ending) :
      Proceeds r (.serviceEnds task ending)
        { r with
          background := r.background.finish task ending
          cache := if name = cacheTask then r.cache.stop else r.cache }
  | runnableEnded {task : Nat} {name : String} (live : task ∈ r.running.live)
      (named : r.manager.runnables[task]? = some name) (completion : Completion) :
      Proceeds r (.runnableEnds task completion)
        { r with running := r.running.finish task (completion.ending name) }
  | serviceClean {background : TaskGroup} (notices : r.notices)
      (looks : r.background.look? = some (none, background)) :
      Proceeds r .lookAtService { r with background := background }
  | serviceFailed {error : ManagerError} {background : TaskGroup} (notices : r.notices)
      (looks : r.background.look? = some (some error, background)) :
      Proceeds r .lookAtService
        (close { r with background := background, running := r.running.abort } (.error error))
  | runnableClean {c? : Option Campaign} {running : TaskGroup} (holding : r.stage = .holding c?)
      (looks : r.running.look? = some (none, running)) :
      Proceeds r .lookAtRunnable { r with running := running }
  | runnableFailed {c? : Option Campaign} {error : ManagerError} {running : TaskGroup}
      (holding : r.stage = .holding c?)
      (looks : r.running.look? = some (some error, running)) :
      Proceeds r .lookAtRunnable (leave { r with running := running } (.error error))
  -- What was told to stop has stopped, or is cut off.
  | runnablesDone {result : Result} {since : Instant} (stopping : r.stage = .stopping result since)
      (done : r.running.isDone) : Proceeds r .drained (r.close result)
  | backgroundDone {result : Result} {since : Instant} (closing : r.stage = .closing result since)
      (done : r.background.isDone) : Proceeds r .drained { r with stage := .returned result }
  | runnablesCut {result : Result} {since : Instant} (stopping : r.stage = .stopping result since)
      (overdue : since + gracePeriod.nanos ≤ r.now) :
      Proceeds r .giveUp (close { r with running := r.running.abort } result)
  | backgroundCut {result : Result} {since : Instant} (closing : r.stage = .closing result since)
      (overdue : since + gracePeriod.nanos ≤ r.now) :
      Proceeds r .giveUp
        { r with stage := .returned result, background := r.background.abort }

variable {r r' : Run}

/-! ### Every step is one of the list -/

theorem proceeds_bind {failure : Option String} (h : r.bind failure = some r') :
    Proceeds r (.bind failure) r' := by
  unfold bind at h
  split at h
  case h_2 => cases h
  case h_1 server socket listeners binding =>
    split at h
    case h_1 reason => cases h; exact .unbound binding reason
    case h_2 => cases h; exact .bound binding

theorem proceeds_lead {clock : Timestamp} (h : r.lead clock = some r') :
    Proceeds r (.lead clock) r' := by
  unfold lead at h
  split at h
  case h_2 => cases h
  case h_1 binding =>
    simp only at h
    split at h
    case h_1 alone => cases h; exact .unopposed binding alone clock
    case h_2 elector stands =>
      cases h
      have opens := Proceeds.campaigned binding stands clock
      cases election : r.manager.plan.election with
      | none => simpa only [setLeader, election] using opens
      | some config => simpa only [setLeader, election] using opens

theorem proceeds_answer {answer : Election.Answer} (h : r.answer answer = some r') :
    Proceeds r (.answer answer) r' := by
  unfold Run.answer at h
  split at h
  case h_1 => cases h
  case h_2 c ongoing =>
    split at h
    case isTrue => cases h
    case isFalse waits =>
      have waits : c.attempt?.isSome := by simpa [Option.isSome_iff_ne_none] using waits
      split at h
      case h_1 crash fails => cases h; exact .crashed ongoing waits fails
      case h_2 c' goes_on => cases h; exact .answered ongoing waits goes_on

theorem proceeds_wake {clock : Timestamp} (h : r.wake clock = some r') :
    Proceeds r (.wake clock) r' := by
  unfold Run.wake at h
  split at h
  case h_1 => cases h
  case h_2 c ongoing =>
    split at h
    case isTrue due => cases h; exact .woken ongoing due clock
    case isFalse => cases h

theorem proceeds_conclude (h : r.conclude = some r') : Proceeds r .conclude r' := by
  unfold conclude at h
  split at h
  case h_1 c campaigning =>
    split at h
    case h_1 outcome => cases h; exact .acquired campaigning outcome
    case h_2 outcome other is_outcome => cases h; exact .abandoned campaigning is_outcome other
    case h_3 => cases h
  case h_2 c holding =>
    split at h
    case h_1 outcome => cases h; exact .lost holding outcome
    case h_2 outcome other is_outcome => cases h; exact .released holding is_outcome other
    case h_3 => cases h
  case h_3 => cases h

theorem proceeds_look (h : r.look = some r') : Proceeds r .look r' := by
  unfold look at h
  split at h
  case h_2 => cases h
  case h_1 ready syncing =>
    split at h
    case h_1 all => cases h; exact .synced syncing all
    case h_2 cell is_cell =>
      split at h
      case isTrue is_ready => cases h; exact .found syncing is_cell is_ready
      case isFalse unready =>
        split at h
        case isTrue ended =>
          cases h
          exact .unsynced syncing is_cell (Bool.eq_false_iff.2 unready) ended
        case isFalse => cases h

theorem proceeds_start (h : r.start = some r') : Proceeds r .start r' := by
  unfold start at h
  split at h
  case h_2 => cases h
  case h_1 starting =>
    split at h
    case h_1 name next => cases h; exact .started starting next
    case h_2 all => cases h; exact .held starting all

theorem proceeds_noticeStop (h : r.noticeStop = some r') : Proceeds r .noticeStop r' := by
  unfold noticeStop at h
  split at h
  case isTrue => cases h
  case isFalse going =>
    have stopped : r.stopped := by simpa using going
    split at h
    case h_1 ready syncing => cases h; exact .stoppedSyncing stopped syncing
    case h_2 holding => cases h; exact .stoppedHolding stopped holding
    case h_3 =>
      split at h
      case h_2 => cases h
      case h_1 c ongoing =>
        split at h
        case isTrue idle => cases h; exact .stoppedCampaign stopped ongoing idle
        case isFalse => cases h

theorem proceeds_serviceEnds {task : Nat} {ending : Ending}
    (h : r.serviceEnds task ending = some r') : Proceeds r (.serviceEnds task ending) r' := by
  unfold serviceEnds at h
  split at h
  case isTrue => cases h
  case isFalse live =>
    split at h
    case h_1 => cases h
    case h_2 name named =>
      split at h
      case isTrue may => cases h; exact .serviceEnded (Decidable.not_not.1 live) named may
      case isFalse => cases h

theorem proceeds_runnableEnds {task : Nat} {completion : Completion}
    (h : r.runnableEnds task completion = some r') :
    Proceeds r (.runnableEnds task completion) r' := by
  unfold runnableEnds at h
  split at h
  case isTrue => cases h
  case isFalse live =>
    split at h
    case h_1 => cases h
    case h_2 name named =>
      cases h
      exact .runnableEnded (Decidable.not_not.1 live) named completion

theorem proceeds_lookAtService (h : r.lookAtService = some r') :
    Proceeds r .lookAtService r' := by
  unfold lookAtService at h
  split at h
  case isTrue => cases h
  case isFalse deaf =>
    have notices : r.notices := by simpa using deaf
    split at h
    case h_1 => cases h
    case h_2 background looks => cases h; exact .serviceClean notices looks
    case h_3 error background looks => cases h; exact .serviceFailed notices looks

theorem proceeds_lookAtRunnable (h : r.lookAtRunnable = some r') :
    Proceeds r .lookAtRunnable r' := by
  unfold lookAtRunnable at h
  split at h
  case h_2 => cases h
  case h_1 c? holding =>
    split at h
    case h_1 => cases h
    case h_2 running looks => cases h; exact .runnableClean holding looks
    case h_3 error running looks => cases h; exact .runnableFailed holding looks

theorem proceeds_drained (h : r.drained = some r') : Proceeds r .drained r' := by
  unfold drained at h
  split at h
  case h_1 result since stopping =>
    split at h
    case isTrue done => cases h; exact .runnablesDone stopping done
    case isFalse => cases h
  case h_2 result since closing =>
    split at h
    case isTrue done => cases h; exact .backgroundDone closing done
    case isFalse => cases h
  case h_3 => cases h

theorem proceeds_giveUp (h : r.giveUp = some r') : Proceeds r .giveUp r' := by
  unfold giveUp at h
  split at h
  case h_1 result since stopping =>
    split at h
    case isTrue overdue => cases h; exact .runnablesCut stopping overdue
    case isFalse => cases h
  case h_2 result since closing =>
    split at h
    case isTrue overdue => cases h; exact .backgroundCut closing overdue
    case isFalse => cases h
  case h_3 => cases h

/-- A step of a run is one of the list. -/
theorem proceeds_of_step {action : Action} (h : r.step action = some r') :
    Proceeds r action r' := by
  cases action with
  | pass now =>
      simp only [step] at h
      split at h
      case isTrue later => cases h; exact .passed later
      case isFalse => cases h
  | bind failure => exact proceeds_bind h
  | lead clock => exact proceeds_lead h
  | answer answer => exact proceeds_answer h
  | wake clock => exact proceeds_wake h
  | conclude => exact proceeds_conclude h
  | inform cell input => cases h; exact .informed cell input
  | tick => cases h; exact .ticked
  | look => exact proceeds_look h
  | start => exact proceeds_start h
  | shutdown => cases h; exact .shutdown
  | halt =>
      simp only [step] at h
      split at h
      case isTrue => cases h
      case isFalse some_started => cases h; exact .halted some_started
  | noticeStop => exact proceeds_noticeStop h
  | serviceEnds task ending => exact proceeds_serviceEnds h
  | runnableEnds task completion => exact proceeds_runnableEnds h
  | lookAtService => exact proceeds_lookAtService h
  | lookAtRunnable => exact proceeds_lookAtRunnable h
  | drained => exact proceeds_drained h
  | giveUp => exact proceeds_giveUp h

end GatedManager.Manager.Run
