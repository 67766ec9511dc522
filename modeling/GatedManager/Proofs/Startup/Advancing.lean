import GatedManager.Proofs.Runs
import GatedManager.Startup.Process

/-!
# What a step of a process does

`Advances` lists the ways in which a process goes on by an action, with everything that decides
between them. Facts about processes are proved from this list and do not open the functions behind
it.
-/

namespace GatedManager.Startup

open Gates (Change Following Snapshot)
open Manager (ManagerError Run)

/-- What happens around a process that follows the cluster, as its accessor sees it. -/
def followed? (f : Following) : Action → Option Following
  | .clusterVersion event => some (f.onClusterVersion event)
  | .featureGate event => some (f.onFeatureGate event)
  | .wakeAccess => some f.wake
  | .stepAccess => some f.step
  | _ => none

/-- The stage at a later instant. -/
def Stage.passTo (now : Instant) : Stage → Stage
  | .managing run => .managing { run with now := now }
  | stage => stage

/-- The stage after the signal. -/
def Stage.fire : Stage → Stage
  | .managing run => .managing run.fire
  | stage => stage

/-- Whether the signal handlers are installed and the process goes on. -/
def Stage.heedsSignal : Stage → Bool
  | .configuring => false
  | .installing _ => false
  | .ended _ => false
  | _ => true

namespace Process

/-- The run of a manager as a process starts it. -/
def launched (p : Process) (m : Manager) : Run :=
  if p.shutdown then (Run.begin m p.now).fire else Run.begin m p.now

/-- The ways in which a process goes on. -/
inductive Advances (p : Process) : Action → Process → Prop
  -- Towards the gates.
  | unconfigured (configuring : p.stage = .configuring) (reason : String) :
      Advances p (.configure (some reason)) (p.fail (.config reason))
  | rejected {error : ManagerError} (configuring : p.stage = .configuring)
      (rejects : Manager.create (managerOptions p.settings .machineApi) p.identity =
        .error error) :
      Advances p (.configure none) (p.fail (.managerConstruction error))
  | configured {m : Manager} (configuring : p.stage = .configuring)
      (created : Manager.create (managerOptions p.settings .machineApi) p.identity = .ok m) :
      Advances p (.configure none) { p with stage := .installing m }
  | uninstalled {m : Manager} (installing : p.stage = .installing m) (reason : String) :
      Advances p (.install (some reason)) (p.fail (.signal reason))
  | installed {m : Manager} (installing : p.stage = .installing m) :
      Advances p (.install none)
        { p.log [enter .configured, enter .probeWaiting] with stage := .connecting m }
  | unconnected {m : Manager} (connecting : p.stage = .connecting m) (reason : String) :
      Advances p (.connect (some reason)) (p.fail (.ofProbe (.client reason)))
  | connected {m : Manager} (connecting : p.stage = .connecting m) :
      Advances p (.connect none)
        { p with stage := .probing m (Instant.timer p.now Gates.waitLimit) }
  | observed {m : Manager} {deadline : Instant} {gates : Snapshot}
      (probing : p.stage = .probing m deadline)
      (known : p.following.access.current = some gates) :
      Advances p .observe { p.log [initializedLine gates] with stage := .probed m }
  | timedOut {m : Manager} {deadline : Instant} (probing : p.stage = .probing m deadline)
      (due : deadline ≤ p.now) : Advances p .timeOut (p.fail (.ofProbe .timedOut))
  | stoppedProbing {m : Manager} {deadline : Instant} (fired : p.shutdown)
      (probing : p.stage = .probing m deadline) :
      Advances p .noticeShutdown
        (p.log [info "Shutdown requested while waiting for feature gates"]).terminate
  | stoppedIdling (fired : p.shutdown) (idling : p.stage = .idling) :
      Advances p .noticeShutdown p.terminate
  -- With the gates.
  | unread {m : Manager} (probed : p.stage = .probed m)
      (unknown : p.following.access.current = none) :
      Advances p .launch (p.fail (.gateRead .notObserved))
  | idles {m : Manager} {gates : Snapshot} (probed : p.stage = .probed m)
      (known : p.following.access.current = some gates)
      (disabled : gates.isEnabled Gates.migrationGate = false) :
      Advances p .launch { p.log idleLines with stage := .idling }
  | unregistered {m : Manager} {gates : Snapshot} {error : BootstrapError}
      (probed : p.stage = .probed m) (known : p.following.access.current = some gates)
      (enabled : gates.isEnabled Gates.migrationGate = true)
      (refused : registerChecks m = .error error) : Advances p .launch (p.fail error)
  | launched {m m' : Manager} {gates : Snapshot} (probed : p.stage = .probed m)
      (known : p.following.access.current = some gates)
      (enabled : gates.isEnabled Gates.migrationGate = true)
      (registered : registerChecks m = .ok m') :
      Advances p .launch { p.log runningLines with stage := .managing (p.launched m') }
  -- The manager makes a step, and may return.
  | managed {run run' : Run} {action : Manager.Action} (managing : p.stage = .managing run)
      (proceeds : run.step action = some run') :
      Advances p (.manage action) { p with stage := .managing run' }
  | finished {run run' : Run} {action : Manager.Action} (managing : p.stage = .managing run)
      (proceeds : run.step action = some run') (returned : run'.stage = .returned (.ok ())) :
      Advances p (.manage action) p.terminate
  | broken {run run' : Run} {action : Manager.Action} {error : ManagerError}
      (managing : p.stage = .managing run) (proceeds : run.step action = some run')
      (returned : run'.stage = .returned (.error error)) :
      Advances p (.manage action) (p.fail (.runtime error))
  | crashed {run run' : Run} {action : Manager.Action} {crash : Election.Crash}
      (managing : p.stage = .managing run) (proceeds : run.step action = some run')
      (crashes : run'.stage = .crashed crash) :
      Advances p (.manage action) { p with stage := .ended (.crashed crash) }
  -- What happens around the process.
  | passed {now : Instant} (later : p.now ≤ now) :
      Advances p (.pass now) { p with now := now, stage := p.stage.passTo now }
  | fired (heeds : p.stage.heedsSignal) :
      Advances p .shutdown { p with shutdown := true, stage := p.stage.fire }
  | followed {action : Action} {f : Following} (follows : p.follows)
      (moves : followed? p.following action = some f) (same : f.changes = []) :
      Advances p action { p with following := f }
  | gatesChanged {action : Action} {f : Following} {change : Change} {later : List Change}
      (follows : p.follows) (moves : followed? p.following action = some f)
      (changes : f.changes = change :: later) :
      Advances p action
        { p.log [changeLine change] with
          following := f, stage := .ended (.gatesChanged change) }

variable {p p' : Process}

/-! ### Every step is one of the list -/

theorem advances_of_configure {failure : Option String} (h : p.configure failure = some p') :
    Advances p (.configure failure) p' := by
  unfold configure at h
  split at h
  case h_1 configuring =>
    cases failure with
    | some reason =>
        obtain rfl := Option.some.inj h
        exact .unconfigured configuring reason
    | none =>
        simp only at h
        split at h
        case h_1 error rejects =>
          obtain rfl := Option.some.inj h
          exact .rejected configuring rejects
        case h_2 m created =>
          obtain rfl := Option.some.inj h
          exact .configured configuring created
  case h_2 => cases h

theorem advances_of_install {failure : Option String} (h : p.install failure = some p') :
    Advances p (.install failure) p' := by
  unfold install at h
  split at h
  case h_1 m installing =>
    cases failure with
    | some reason =>
        obtain rfl := Option.some.inj h
        exact .uninstalled installing reason
    | none =>
        obtain rfl := Option.some.inj h
        exact .installed installing
  case h_2 => cases h

theorem advances_of_connect {failure : Option String} (h : p.connect failure = some p') :
    Advances p (.connect failure) p' := by
  unfold connect at h
  split at h
  case h_1 m connecting =>
    cases failure with
    | some reason =>
        obtain rfl := Option.some.inj h
        exact .unconnected connecting reason
    | none =>
        obtain rfl := Option.some.inj h
        exact .connected connecting
  case h_2 => cases h

theorem advances_of_observe (h : p.observe = some p') : Advances p .observe p' := by
  unfold observe at h
  split at h
  case h_1 m deadline probing =>
    cases known : p.following.access.current with
    | none => simp [Gates.Access.isObserved, known] at h
    | some gates =>
        simp only [Gates.Access.isObserved, Gates.Access.snapshot, known, Option.isSome_some,
          Bool.not_true, Bool.false_eq_true, if_false, Option.some.injEq] at h
        exact h ▸ .observed probing known
  case h_2 => cases h

theorem advances_of_timeOut (h : p.timeOut = some p') : Advances p .timeOut p' := by
  unfold timeOut at h
  split at h
  case h_1 m deadline probing =>
    obtain ⟨due, h⟩ := Option.ite_none_right_eq_some.1 h
    obtain rfl := Option.some.inj h
    exact .timedOut probing due
  case h_2 => cases h

theorem advances_of_noticeShutdown (h : p.noticeShutdown = some p') :
    Advances p .noticeShutdown p' := by
  unfold noticeShutdown at h
  obtain ⟨fired, h⟩ := Option.ite_none_left_eq_some.1 h
  rw [Bool.not_eq_true', Bool.not_eq_false] at fired
  split at h
  case h_1 m deadline probing =>
    obtain rfl := Option.some.inj h
    exact .stoppedProbing fired probing
  case h_2 idling =>
    obtain rfl := Option.some.inj h
    exact .stoppedIdling fired idling
  case h_3 => cases h

theorem advances_of_launch (h : p.launch = some p') : Advances p .launch p' := by
  unfold launch at h
  split at h
  case h_1 m probed =>
    cases known : p.following.access.current with
    | none =>
        simp only [Gates.Access.snapshot, known, Option.some.injEq] at h
        exact h ▸ .unread probed known
    | some gates =>
        simp only [Gates.Access.snapshot, known, Startup.launch] at h
        cases enabled : gates.isEnabled Gates.migrationGate with
        | false =>
            simp only [enabled, Bool.false_eq_true, if_false, Option.some.injEq] at h
            exact h ▸ .idles probed known enabled
        | true =>
            simp only [enabled, if_true] at h
            cases registered : registerChecks m with
            | error error =>
                simp only [registered, Except.map, Option.some.injEq] at h
                exact h ▸ .unregistered probed known enabled registered
            | ok m' =>
                simp only [registered, Except.map, Option.some.injEq] at h
                exact h ▸ .launched probed known enabled registered
  case h_2 => cases h

theorem advances_of_manage {action : Manager.Action} (h : p.manage action = some p') :
    Advances p (.manage action) p' := by
  unfold manage at h
  split at h
  case h_3 run managing _ _ =>
    obtain ⟨run', proceeds, rfl⟩ := Option.map_eq_some_iff.1 h
    unfold afterManager
    split
    case h_1 returned => exact .finished managing proceeds returned
    case h_2 error returned => exact .broken managing proceeds returned
    case h_3 crash crashes => exact .crashed managing proceeds crashes
    case h_4 => exact .managed managing proceeds
  all_goals cases h

theorem advances_of_pass {now : Instant} (h : p.pass now = some p') :
    Advances p (.pass now) p' := by
  unfold pass at h
  obtain ⟨later, h⟩ := Option.ite_none_left_eq_some.1 h
  have passed : p' = { p with now := now, stage := p.stage.passTo now } := by
    split at h
    case h_1 run managing => rw [← Option.some.inj h, managing, Stage.passTo]
    case h_2 other =>
      have stays : p.stage.passTo now = p.stage := by
        unfold Stage.passTo
        split
        case h_1 run managing => exact absurd managing (other run)
        case h_2 => rfl
      rw [← Option.some.inj h, stays]
  exact passed ▸ .passed (Nat.le_of_not_lt later)

theorem advances_of_onFollowing {action : Action} {f : Following}
    (moves : followed? p.following action = some f) (h : p.onFollowing f = some p') :
    Advances p action p' := by
  unfold onFollowing at h
  obtain ⟨follows, h⟩ := Option.ite_none_left_eq_some.1 h
  rw [Bool.not_eq_true', Bool.not_eq_false] at follows
  split at h
  case h_1 same =>
    obtain rfl := Option.some.inj h
    exact .followed follows moves same
  case h_2 change later changes =>
    obtain rfl := Option.some.inj h
    exact .gatesChanged follows moves changes

theorem fire_eq (p : Process) : p.fire = { p with shutdown := true, stage := p.stage.fire } := by
  unfold fire
  cases stage : p.stage <;> rfl

/-- Every step of a process is one of the list. -/
theorem advances_of_step {action : Action} (h : p.step action = some p') :
    Advances p action p' := by
  cases action with
  | pass now => exact advances_of_pass h
  | configure failure => exact advances_of_configure h
  | install failure => exact advances_of_install h
  | connect failure => exact advances_of_connect h
  | observe => exact advances_of_observe h
  | timeOut => exact advances_of_timeOut h
  | noticeShutdown => exact advances_of_noticeShutdown h
  | launch => exact advances_of_launch h
  | shutdown =>
      simp only [step] at h
      split at h
      case h_4 not_configuring not_installing not_ended =>
        have heeds : p.stage.heedsSignal = true := by
          unfold Stage.heedsSignal
          split <;> simp_all
        obtain rfl := Option.some.inj h
        exact fire_eq p ▸ .fired heeds
      all_goals cases h
  | clusterVersion | featureGate | wakeAccess | stepAccess => exact advances_of_onFollowing rfl h
  | manage action => exact advances_of_manage h

end Process

end GatedManager.Startup
