import GatedManager.Proofs.Gates.History
import GatedManager.Proofs.Manager.Course
import GatedManager.Proofs.Startup.Advancing

/-!
# The phases of a process

A process announces its phases in its log, and its stage determines which ones it has announced.
`Process.Sound` holds of every process: as long as it goes on it has told of no failure, the
manager that it has made is as it was made and the snapshot that it has waited for is there; once
it has ended, the way in which it ended determines its phases and its last line.
-/

namespace GatedManager.Startup

open Gates (Change Following)
open Logging (Line)
open Manager (Run)

/-! ### The phases in the log -/

namespace Phase

def all : List Phase := [init, configured, probeWaiting, idle, running, terminated]

/-- The phase that a line announces. -/
def ofLine? (line : Line) : Option Phase := all.find? fun phase => line = enter phase

@[simp] theorem ofLine?_enter (phase : Phase) : ofLine? (enter phase) = some phase := by
  cases phase <;> decide

theorem ofLine?_of_ne {line : Line} (other : ∀ phase, line ≠ enter phase) :
    ofLine? line = none := by
  refine List.find?_eq_none.2 fun phase _ => ?_
  simpa using other phase

theorem ofLine?_of_target {line : Line} (other : line.target ≠ startupTarget) :
    ofLine? line = none :=
  ofLine?_of_ne fun _ same => other (same ▸ rfl)

/-- What an announcement begins with. -/
theorem ofLine?_info {message : String}
    (other : ¬"Startup phase: ".toList <+: message.toList) : ofLine? (info message) = none := by
  refine ofLine?_of_ne fun phase same => other ?_
  obtain rfl : message = "Startup phase: " ++ phase.name := congrArg Line.message same
  rw [String.toList_append]
  exact List.prefix_append ..

@[simp] theorem ofLine?_release (version : String) :
    ofLine? (info ("Release version: " ++ version)) = none :=
  ofLine?_info (by simp [String.toList_append])

@[simp] theorem ofLine?_namespace (name : String) :
    ofLine? (info ("Managed namespace: " ++ name)) = none :=
  ofLine?_info (by simp [String.toList_append])

@[simp] theorem ofLine?_shutdown :
    ofLine? (info "Shutdown requested while waiting for feature gates") = none :=
  ofLine?_info (by simp)

@[simp] theorem ofLine?_idleMessage : ofLine? (info idleMessage) = none :=
  ofLine?_info (by simp [idleMessage, Gates.migrationGate])

@[simp] theorem ofLine?_starting : ofLine? (info "starting manager") = none :=
  ofLine?_info (by simp)

@[simp] theorem ofLine?_failureLine (error : BootstrapError) :
    ofLine? (failureLine error) = none :=
  ofLine?_of_target (by simp [failureLine, processTarget, startupTarget])

@[simp] theorem ofLine?_initializedLine (gates : Gates.Snapshot) :
    ofLine? (initializedLine gates) = none :=
  ofLine?_of_target (by simp [initializedLine, startupTarget])

@[simp] theorem ofLine?_changeLine (change : Change) : ofLine? (changeLine change) = none :=
  ofLine?_of_target (by simp [changeLine, startupTarget])

end Phase

/-- The ways of a process through its phases. -/
def courses : List (List Phase) :=
  [[.init, .configured, .probeWaiting, .idle, .terminated],
   [.init, .configured, .probeWaiting, .running, .terminated],
   [.init, .configured, .probeWaiting, .terminated]]

/-- The phases that a process has entered while it goes on. -/
def Stage.entered? : Stage → Option (List Phase)
  | .configuring => some [.init]
  | .installing _ => some [.init]
  | .connecting _ => some [.init, .configured, .probeWaiting]
  | .probing _ _ => some [.init, .configured, .probeWaiting]
  | .probed _ => some [.init, .configured, .probeWaiting]
  | .idling => some [.init, .configured, .probeWaiting, .idle]
  | .managing _ => some [.init, .configured, .probeWaiting, .running]
  | .ended _ => none

/-- The manager that has not been started yet. -/
def Stage.manager? : Stage → Option Manager
  | .installing m => some m
  | .connecting m => some m
  | .probing m _ => some m
  | .probed m => some m
  | _ => none

/-- Whether a line tells that a stage of the startup failed. -/
def IsFailure (line : Line) : Prop := ∃ error, line = failureLine error

theorem not_isFailure_of_target {line : Line} (other : line.target ≠ processTarget) :
    ¬IsFailure line := by
  rintro ⟨error, rfl⟩
  exact other rfl

@[simp] theorem not_isFailure_info (message : String) : ¬IsFailure (info message) :=
  not_isFailure_of_target (by simp [info, startupTarget, processTarget])

@[simp] theorem not_isFailure_enter (phase : Phase) : ¬IsFailure (enter phase) :=
  not_isFailure_info _

@[simp] theorem not_isFailure_initializedLine (gates : Gates.Snapshot) :
    ¬IsFailure (initializedLine gates) :=
  not_isFailure_of_target (by simp [initializedLine, processTarget])

namespace Process

variable {p p' : Process} {action : Action}

/-- The phases that the process has logged, the first one first. -/
def phases (p : Process) : List Phase := p.lines.filterMap Phase.ofLine?

/-- What the failure that ends a process leaves behind: its line comes last and is the only one of
its sort, and it is none of the two failures that do not happen. -/
def HasFailed (p : Process) (error : BootstrapError) : Prop :=
  error.stage ≠ "feature gate read" ∧ error.stage ≠ "health registration" ∧
    ∃ before, p.lines = before ++ [failureLine error] ∧ ∀ line ∈ before, ¬IsFailure line

/-! ### What a process has logged -/

@[simp] theorem phases_log (p : Process) (lines : List Line) :
    (p.log lines).phases = p.phases ++ lines.filterMap Phase.ofLine? :=
  List.filterMap_append

@[simp] theorem phases_terminate (p : Process) :
    p.terminate.phases = p.phases ++ [.terminated] := by
  change (p.log [enter .terminated]).phases = _
  simp

@[simp] theorem phases_fail (p : Process) (error : BootstrapError) :
    (p.fail error).phases = p.phases := by
  change (p.log [failureLine error]).phases = _
  simp

theorem not_isFailure_log {lines : List Line} (before : ∀ line ∈ p.lines, ¬IsFailure line)
    (new : ∀ line ∈ lines, ¬IsFailure line) : ∀ line ∈ (p.log lines).lines, ¬IsFailure line := by
  intro line hl
  rcases List.mem_append.1 hl with hl | hl
  · exact before line hl
  · exact new line hl

/-- The phases of a process that goes on, or has stopped without having terminated. -/
def IsGoing (phases : List Phase) : Prop :=
  phases ∈ [[.init], [.init, .configured, .probeWaiting],
    [.init, .configured, .probeWaiting, .idle], [.init, .configured, .probeWaiting, .running]]

theorem IsGoing.course {phases : List Phase} (h : IsGoing phases) :
    ∃ course ∈ courses, phases <+: course := by
  revert h phases
  unfold IsGoing
  decide

theorem IsGoing.not_terminated {phases : List Phase} (h : IsGoing phases) :
    .terminated ∉ phases := by
  revert h phases
  unfold IsGoing
  decide

/-- How a process has ended, and what it has logged. -/
inductive HasEnded (p : Process) : Exit → Prop
  | clean (course : p.phases ∈ courses) : HasEnded p .clean
  | failed {error : BootstrapError} (going : IsGoing p.phases) (failed : p.HasFailed error) :
      HasEnded p (.failed error)
  | gatesChanged (change : Change) (going : IsGoing p.phases) :
      HasEnded p (.gatesChanged change)
  | crashed (crash : Election.Crash) (going : IsGoing p.phases) : HasEnded p (.crashed crash)

/-- What holds of a process at every time. -/
structure Sound (p : Process) : Prop where
  entered : ∀ phases, p.stage.entered? = some phases → p.phases = phases
  unfailed : p.exit? = none → ∀ line ∈ p.lines, ¬IsFailure line
  fresh : ∀ m, p.stage.manager? = some m → m.probes = {}
  known : ∀ m, p.stage = .probed m → p.following.access.isObserved
  ended : ∀ exit, p.exit? = some exit → p.HasEnded exit

theorem exit?_eq_some_iff {exit : Exit} : p.exit? = some exit ↔ p.stage = .ended exit := by
  unfold exit?
  split
  case h_1 other ended => simp [ended]
  case h_2 other => simpa using other exit

theorem exit?_of_entered? {phases : List Phase} (entered : p.stage.entered? = some phases) :
    p.exit? = none := by
  cases stage : p.stage with
  | ended exit => simp [stage, Stage.entered?] at entered
  | _ => simp [exit?, stage]

theorem isGoing_of_entered? {stage : Stage} {phases : List Phase}
    (entered : stage.entered? = some phases) : IsGoing phases := by
  cases stage <;> cases entered <;> simp [IsGoing]

theorem sound_of_entered? {phases : List Phase} (entered : p.stage.entered? = some phases)
    (logged : p.phases = phases) (unfailed : ∀ line ∈ p.lines, ¬IsFailure line)
    (fresh : ∀ m, p.stage.manager? = some m → m.probes = {})
    (known : ∀ m, p.stage = .probed m → p.following.access.isObserved) : p.Sound where
  entered := fun phases' entered' => logged.trans (Option.some.inj (entered.symm.trans entered'))
  unfailed := fun _ => unfailed
  fresh := fresh
  known := known
  ended := fun exit ended => absurd (ended.symm.trans (exit?_of_entered? entered)) (by simp)

theorem sound_of_ended {exit : Exit} (ended : p.stage = .ended exit) (h : p.HasEnded exit) :
    p.Sound where
  entered := fun phases entered => by simp [ended, Stage.entered?] at entered
  unfailed := fun going => by simp [exit?, ended] at going
  fresh := fun m fresh => by simp [ended, Stage.manager?] at fresh
  known := fun m probed => by simp [ended] at probed
  ended := fun exit' ended' => by
    obtain rfl : exit = exit' := by simpa [exit?, ended] using ended'
    exact h

namespace Sound

variable {phases : List Phase}

theorem going (h : p.Sound) (entered : p.stage.entered? = some phases) : IsGoing p.phases :=
  h.entered phases entered ▸ isGoing_of_entered? entered

theorem fail (h : p.Sound) (entered : p.stage.entered? = some phases) {error : BootstrapError}
    (happens : error.stage ∉ ["feature gate read", "health registration"]) :
    (p.fail error).Sound := by
  have readable := List.ne_of_not_mem_cons happens
  have registrable := List.ne_of_not_mem_cons (List.not_mem_of_not_mem_cons happens)
  have unfailed := h.unfailed (exit?_of_entered? entered)
  refine sound_of_ended rfl (.failed ?_ ⟨readable, registrable, p.lines, rfl, unfailed⟩)
  rw [phases_fail]
  exact h.going entered

/-- Lines that tell of no failure, with the stage whose phases they announce. -/
theorem advance (h : p.Sound) (entered : p.stage.entered? = some phases) {lines : List Line}
    {stage : Stage} (told : stage.entered? = some (phases ++ lines.filterMap Phase.ofLine?))
    (unfailed : ∀ line ∈ lines, ¬IsFailure line)
    (fresh : ∀ m, stage.manager? = some m → p.stage.manager? = some m)
    (known : ∀ m, stage = .probed m → p.following.access.isObserved) :
    ({ p.log lines with stage := stage } : Process).Sound := by
  refine sound_of_entered? told ?_ ?_ (fun m now => h.fresh m (fresh m now)) known
  · exact (phases_log p lines).trans (by rw [h.entered phases entered])
  · exact not_isFailure_log (h.unfailed (exit?_of_entered? entered)) unfailed

theorem terminate (h : p.Sound) (entered : p.stage.entered? = some phases)
    (course : phases ++ [.terminated] ∈ courses) : p.terminate.Sound := by
  refine sound_of_ended rfl (.clean ?_)
  rw [phases_terminate, h.entered phases entered]
  exact course

end Sound

theorem probes_of_create {options : Manager.Options} {identity : String} {m : Manager}
    (created : Manager.create options identity = .ok m) : m.probes = {} := by
  unfold Manager.create at created
  cases plan : options.plan with
  | error error => simp [plan, Except.map] at created
  | ok plan' =>
      simp only [plan, Except.map, Except.ok.injEq] at created
      exact created ▸ rfl

/-- A manager without checks takes those of the process. -/
theorem registerChecks_of_fresh {m : Manager} (fresh : m.probes = {}) :
    ∃ m', registerChecks m = .ok m' := by
  cases m
  subst fresh
  exact ⟨_, rfl⟩

theorem isObserved_of_followed? {f f' : Following} (moves : followed? f action = some f')
    (known : f.access.isObserved) : f'.access.isObserved := by
  cases action with
  | clusterVersion | featureGate =>
      obtain rfl := Option.some.inj moves
      exact known
  | wakeAccess =>
      obtain rfl := Option.some.inj moves
      rwa [Following.access_wake]
  | stepAccess =>
      obtain rfl := Option.some.inj moves
      cases stage : f.stage with
      | readBoth clusterVersion featureGate =>
          rw [Following.step, stage]
          exact Gates.Look.isObserved_after (l := ⟨⟨clusterVersion, featureGate⟩, f⟩) known
      | ready =>
          simp only [Following.step, stage]
          split <;> exact known
      | _ => simpa only [Following.step, stage] using known
  | _ => cases moves

theorem phases_of_lines (lines : p'.lines = p.lines) : p'.phases = p.phases := by
  rw [phases, lines, phases]

theorem HasEnded.of_lines {exit : Exit} (h : p.HasEnded exit) (lines : p'.lines = p.lines) :
    p'.HasEnded exit := by
  have same := phases_of_lines lines
  cases h with
  | clean course => exact .clean (same ▸ course)
  | failed going failed => exact .failed (same ▸ going) (by rwa [HasFailed, lines])
  | gatesChanged change going => exact .gatesChanged change (same ▸ going)
  | crashed crash going => exact .crashed crash (same ▸ going)

/-- What logs nothing and leaves the stage alone, apart from the run of a manager, keeps a process
sound. -/
theorem Sound.keep (h : p.Sound) (lines : p'.lines = p.lines)
    (stage : p'.stage = p.stage ∨ ∃ r r', p.stage = .managing r ∧ p'.stage = .managing r')
    (observed : p.following.access.isObserved → p'.following.access.isObserved) :
    p'.Sound := by
  rcases stage with same | ⟨r, r', before, after⟩
  · exact {
      entered := fun phases entered =>
        (phases_of_lines lines).trans (h.entered phases (same ▸ entered))
      unfailed := fun going => lines ▸ h.unfailed (by rwa [exit?, same] at going)
      fresh := fun m fresh => h.fresh m (same ▸ fresh)
      known := fun m probed => observed (h.known m (same ▸ probed))
      ended := fun exit ended =>
        (h.ended exit (by rwa [exit?, same] at ended)).of_lines lines }
  · have entered := congrArg Stage.entered? before
    refine sound_of_entered? (congrArg Stage.entered? after)
      ((phases_of_lines lines).trans (h.entered _ entered))
      (lines ▸ h.unfailed (exit?_of_entered? entered)) ?_ ?_
    · intro m fresh
      simp [after, Stage.manager?] at fresh
    · intro m probed
      simp [after] at probed

theorem passTo_cases (stage : Stage) (now : Instant) :
    stage.passTo now = stage ∨ ∃ r r', stage = .managing r ∧ stage.passTo now = .managing r' := by
  cases stage with
  | managing r => exact .inr ⟨r, _, rfl, rfl⟩
  | _ => exact .inl rfl

theorem fire_cases (stage : Stage) :
    stage.fire = stage ∨ ∃ r r', stage = .managing r ∧ stage.fire = .managing r' := by
  cases stage with
  | managing r => exact .inr ⟨r, _, rfl, rfl⟩
  | _ => exact .inl rfl

theorem entered?_of_follows (follows : p.follows) :
    ∃ phases, p.stage.entered? = some phases := by
  unfold Process.follows at follows
  cases stage : p.stage with
  | probing | probed | idling | managing => exact ⟨_, rfl⟩
  | _ => simp [stage] at follows

theorem Sound.begin (settings : CommandLine.Settings) (identity : String) (now : Instant) :
    (begin settings identity now).Sound := by
  refine sound_of_entered? rfl ?_ ?_ ?_ ?_
  · simp [phases, Process.begin]
  · simp [Process.begin]
  · simp [Process.begin, Stage.manager?]
  · simp [Process.begin]

/-- Every step keeps a process sound. -/
theorem Sound.step (h : p.Sound) (hs : p.step action = some p') : p'.Sound := by
  cases advances_of_step hs with
  | unconfigured configuring | rejected configuring =>
      exact h.fail (congrArg Stage.entered? configuring) (by simp [BootstrapError.stage])
  | configured configuring created =>
      have entered := congrArg Stage.entered? configuring
      refine sound_of_entered? rfl (h.entered _ entered)
        (h.unfailed (exit?_of_entered? entered)) ?_ (by simp)
      intro m' fresh
      exact Option.some.inj fresh ▸ probes_of_create created
  | uninstalled installing =>
      exact h.fail (congrArg Stage.entered? installing) (by simp [BootstrapError.stage])
  | installed installing =>
      exact h.advance (congrArg Stage.entered? installing) (by simp [Stage.entered?]) (by simp)
        (fun _ fresh => (congrArg Stage.manager? installing).trans fresh) (by simp)
  | unconnected connecting =>
      exact h.fail (congrArg Stage.entered? connecting)
        (by simp [BootstrapError.ofProbe, BootstrapError.stage])
  | connected connecting =>
      have entered := congrArg Stage.entered? connecting
      exact sound_of_entered? rfl (h.entered _ entered)
        (h.unfailed (exit?_of_entered? entered))
        (fun m' fresh => h.fresh m' ((congrArg Stage.manager? connecting).trans fresh))
        (by simp)
  | @observed m deadline gates probing known =>
      exact h.advance (congrArg Stage.entered? probing) (by simp [Stage.entered?]) (by simp)
        (fun _ fresh => (congrArg Stage.manager? probing).trans fresh)
        (fun _ _ => Option.isSome_iff_exists.2 ⟨gates, known⟩)
  | timedOut probing =>
      exact h.fail (congrArg Stage.entered? probing)
        (by simp [BootstrapError.ofProbe, BootstrapError.stage])
  | stoppedProbing fired probing =>
      refine sound_of_ended rfl (.clean ?_)
      simp [h.entered _ (congrArg Stage.entered? probing), courses]
  | stoppedIdling fired idling => exact h.terminate (congrArg Stage.entered? idling) (by decide)
  -- the snapshot that was waited for is there
  | unread probed unknown =>
      have known := h.known _ probed
      simp [Gates.Access.isObserved, unknown] at known
  | idles probed known disabled =>
      exact h.advance (congrArg Stage.entered? probed) (by simp [Stage.entered?, idleLines])
        (by simp [idleLines]) (by simp [Stage.manager?]) (by simp)
  -- the manager has no checks yet
  | unregistered probed known enabled refused =>
      obtain ⟨m', registered⟩ :=
        registerChecks_of_fresh (h.fresh _ (congrArg Stage.manager? probed))
      exact absurd (refused.symm.trans registered) (by simp)
  | launched probed known enabled registered =>
      exact h.advance (congrArg Stage.entered? probed) (by simp [Stage.entered?, runningLines])
        (by simp [runningLines]) (by simp [Stage.manager?]) (by simp)
  | managed managing proceeds => exact h.keep rfl (.inr ⟨_, _, managing, rfl⟩) id
  | finished managing proceeds returned =>
      exact h.terminate (congrArg Stage.entered? managing) (by decide)
  | broken managing proceeds returned =>
      exact h.fail (congrArg Stage.entered? managing) (by simp [BootstrapError.stage])
  | crashed managing proceeds crashes =>
      exact sound_of_ended rfl (.crashed _ (h.going (congrArg Stage.entered? managing)))
  | passed later => exact h.keep rfl (passTo_cases _ _) id
  | fired heeds => exact h.keep rfl (fire_cases _) id
  | followed follows moves same => exact h.keep rfl (.inl rfl) (isObserved_of_followed? moves)
  | @gatesChanged _ f change later follows moves changes =>
      obtain ⟨phases, entered⟩ := entered?_of_follows follows
      refine sound_of_ended rfl (.gatesChanged change ?_)
      have silent : (p.log [changeLine change]).phases = p.phases := by simp
      exact silent ▸ h.going entered

theorem Sound.run {settings : CommandLine.Settings} {identity : String} {now : Instant}
    {actions : List Action}
    (run : runFrom Process.step (Process.begin settings identity now) actions = some p) :
    p.Sound :=
  runFrom_invariant (fun _ _ _ h hs => Sound.step h hs) (Sound.begin _ _ _) run

end Process

end GatedManager.Startup
