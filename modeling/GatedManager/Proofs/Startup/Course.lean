import GatedManager.CommandLine.Parser
import GatedManager.Proofs.Startup.Phases

/-!
# The course of a process

A process announces its phases in order. It enters the running phase, in which alone it touches
anything but its gates, only if the snapshot that it waited for enables the migration gate, and it
idles only if it does not. It ends with status 0 when it has terminated or the gates have changed,
and after the one line about its failure otherwise. The one exception is arithmetic of the election
without a result: the process then ends with another status and says nothing.
-/

namespace GatedManager.Startup

open Manager (Run)

namespace Process

variable {p p' : Process} {action : Action}

/-! ### Entering the phases -/

/-- A run that has touched nothing yet: no listener is bound, no lease request is on its way and
no informer has been started. -/
structure Untouched (r : Run) : Prop where
  bound : r.bound = []
  campaign : r.campaign? = none
  cache : r.cache.phase = .idle
  background : r.background = {}

theorem untouched_launched (p : Process) (m : Manager) : Untouched (p.launched m) := by
  unfold launched
  split
  · rw [Run.fire_eq]
    exact ⟨rfl, rfl, rfl, rfl⟩
  · exact ⟨rfl, rfl, rfl, rfl⟩

/-- The snapshot that a process reads after its probe, with what it says of the migration gate. -/
def ReadsGate (p : Process) (enabled : Bool) : Prop :=
  ∃ m gates, p.stage = .probed m ∧ p.following.access.current = some gates ∧
    gates.isEnabled Gates.migrationGate = enabled

/-- The phases that a step adds. The snapshot decides between the last two. -/
theorem phases_of_step (hs : p.step action = some p') :
    ∃ new, p'.phases = p.phases ++ new ∧ (.running ∈ new → p.ReadsGate true) ∧
      (.idle ∈ new → p.ReadsGate false) := by
  cases advances_of_step hs with
  | unconfigured | rejected | uninstalled | unconnected | timedOut | unread | unregistered
  | broken => exact ⟨[], by simp, nofun, nofun⟩
  | configured | connected | managed | crashed | passed | fired | followed =>
      exact ⟨[], by simp [phases], nofun, nofun⟩
  | installed =>
      exact ⟨[.configured, .probeWaiting], (phases_log ..).trans (by simp), by simp, by simp⟩
  | observed => exact ⟨[], (phases_log ..).trans (by simp), nofun, nofun⟩
  | stoppedProbing => exact ⟨[.terminated], by simp, by simp, by simp⟩
  | stoppedIdling | finished => exact ⟨[.terminated], phases_terminate _, by simp, by simp⟩
  | idles probed known disabled =>
      exact ⟨[.idle], (phases_log ..).trans (by simp [idleLines]), by simp,
        fun _ => ⟨_, _, probed, known, disabled⟩⟩
  | launched probed known enabled registered =>
      exact ⟨[.running], (phases_log ..).trans (by simp [runningLines]),
        fun _ => ⟨_, _, probed, known, enabled⟩, by simp⟩
  | gatesChanged => exact ⟨[], (phases_log ..).trans (by simp), nofun, nofun⟩

/-- A step enters the last phases by the snapshot, and before it has entered the running phase a
process has no manager that runs. -/
structure EntersByGates (p : Process) (action : Action) (p' : Process) : Prop where
  running : .running ∉ p.phases → .running ∈ p'.phases → p.ReadsGate true
  idle : .idle ∉ p.phases → .idle ∈ p'.phases → p.ReadsGate false
  dormant : .running ∉ p.phases → (∀ managed, action ≠ .manage managed) ∧
    ∀ r, p'.stage = .managing r → .running ∈ p'.phases ∧ Untouched r

theorem Sound.running (h : p.Sound) {r : Run} (managing : p.stage = .managing r) :
    .running ∈ p.phases := by
  rw [h.entered _ (congrArg Stage.entered? managing)]
  decide

theorem Sound.entersByGates (h : p.Sound) (hs : p.step action = some p') :
    p.EntersByGates action p' := by
  obtain ⟨new, adds, running, idle⟩ := phases_of_step hs
  refine ⟨fun before after => running ?_, fun before after => idle ?_, fun before => ⟨?_, ?_⟩⟩
  · exact (List.mem_append.1 (adds ▸ after)).resolve_left before
  · exact (List.mem_append.1 (adds ▸ after)).resolve_left before
  · rintro managed rfl
    cases advances_of_step hs with
    | managed managing | finished managing | broken managing | crashed managing =>
        exact before (h.running managing)
    | followed follows moves | gatesChanged follows moves => cases moves
  · intro r managing
    refine ⟨(h.step hs).running managing, ?_⟩
    cases advances_of_step hs with
    | launched =>
        obtain rfl := Stage.managing.inj managing
        exact untouched_launched _ _
    | managed managing' => exact absurd (h.running managing') before
    | passed =>
        rcases passTo_cases p.stage _ with same | ⟨r', _, before', _⟩
        · exact absurd (h.running (same.symm.trans managing)) before
        · exact absurd (h.running before') before
    | fired =>
        rcases fire_cases p.stage with same | ⟨r', _, before', _⟩
        · exact absurd (h.running (same.symm.trans managing)) before
        · exact absurd (h.running before') before
    | followed => exact absurd (h.running managing) before
    | _ => cases managing

/-! ### The end -/

/-- A process ends in order: with status 0 exactly if it has terminated or the gates have changed,
and otherwise with status 1 and the line about its failure. -/
structure EndsInOrder (p : Process) (exit : Exit) : Prop where
  clean : exit.code = 0 ↔ .terminated ∈ p.phases ∨ ∃ change, exit = .gatesChanged change
  failed : exit.code ≠ 0 → exit.code = 1 ∧ ∃ error, p.HasFailed error

theorem HasEnded.course {exit : Exit} (h : p.HasEnded exit) :
    ∃ course ∈ courses, p.phases <+: course := by
  cases h with
  | clean course => exact ⟨_, course, List.prefix_rfl⟩
  | failed going | gatesChanged _ going | crashed _ going => exact going.course

theorem Sound.course (h : p.Sound) : ∃ course ∈ courses, p.phases <+: course := by
  cases stage : p.stage with
  | ended exit => exact (h.ended exit (exit?_eq_some_iff.2 stage)).course
  | _ => exact (h.going (congrArg Stage.entered? stage)).course

theorem HasEnded.endsInOrder_iff {exit : Exit} (h : p.HasEnded exit) :
    p.EndsInOrder exit ↔ ∀ crash, exit ≠ .crashed crash := by
  cases h with
  | clean course =>
      have terminated : ∀ course ∈ courses, .terminated ∈ course := by decide
      refine ⟨fun _ => nofun, fun _ => ⟨⟨fun _ => .inl (terminated _ course), fun _ => rfl⟩, ?_⟩⟩
      exact fun nonzero => absurd rfl nonzero
  | failed going failed =>
      refine ⟨fun _ => nofun, fun _ => ⟨⟨nofun, ?_⟩, fun _ => ⟨rfl, _, failed⟩⟩⟩
      rintro (terminated | ⟨change, same⟩)
      · exact absurd terminated going.not_terminated
      · cases same
  | gatesChanged change going =>
      refine ⟨fun _ => nofun, fun _ => ⟨⟨fun _ => .inr ⟨change, rfl⟩, fun _ => rfl⟩, ?_⟩⟩
      exact fun nonzero => absurd rfl nonzero
  | crashed crash going =>
      refine ⟨fun h => ?_, fun none_ => absurd rfl (none_ crash)⟩
      exact absurd (h.failed (show (101 : UInt8) ≠ 0 by decide)).1
        (show (101 : UInt8) ≠ 1 by decide)

/-- A process starts conditionally: its phases go one of the ways, the snapshot decides whether it
runs or idles, it has no manager that runs before it has entered the running phase, and it ends as
`ends` says. -/
def StartsConditionally (ends : Process → Exit → Prop) (settings : CommandLine.Settings)
    (identity : String) (now : Instant) : Prop :=
  ∀ actions p, runFrom step (begin settings identity now) actions = some p →
    (∃ course ∈ courses, p.phases <+: course) ∧
    (.running ∉ p.phases → ∀ r, p.stage ≠ .managing r) ∧
    (∀ action p', p.step action = some p' → p.EntersByGates action p') ∧
    ∀ exit, p.exit? = some exit → ends p exit

/-- Whatever happens to a process, it starts conditionally, and it ends in order unless the
arithmetic of the election has no result. -/
theorem starts_conditionally (settings : CommandLine.Settings) (identity : String)
    (now : Instant) :
    StartsConditionally (fun p exit => p.EndsInOrder exit ↔ ∀ crash, exit ≠ .crashed crash)
      settings identity now := by
  intro actions p run
  have sound := Sound.run run
  refine ⟨sound.course, ?_, ?_, ?_⟩
  · exact fun dormant r managing => dormant (sound.running managing)
  · exact fun action p' hs => sound.entersByGates hs
  · exact fun exit ended => (sound.ended exit ended).endsInOrder_iff

/-- A command line with a lease that no clock can count. -/
def overlongArguments : List String :=
  ["--leader-elect-lease-duration=10000000000000000000s", "--health-addr=0",
   "--metrics-bind-addr=0", "--release-version=4.16.0"]

/-- The settings of that command line. -/
def overlong : CommandLine.Settings where
  healthAddr := "0"
  metricsBindAddr := "0"
  leaseDuration := .ofSeconds 10000000000000000000
  releaseVersion := "4.16.0"

/-- The gate is enabled, and the manager creates its lease. -/
def firstLease : List Action :=
  [.configure none, .install none, .connect none, .featureGate .restart,
    .featureGate (.listed (Gates.clusterKey Api.FeatureGate.objectName)
      ⟨{}, ⟨.standard, none⟩, some ⟨[⟨"4.16.0", [Gates.migrationGate], []⟩]⟩⟩),
    .featureGate .complete, .wakeAccess, .stepAccess, .stepAccess, .stepAccess, .stepAccess,
    .observe, .launch, .manage (.lead ⟨0, 0⟩), .manage (.answer (.read (.ok none))),
    .manage (.answer (.written (.ok ())))]

/-- The process accepts its settings and makes its manager, which then cannot tell when the lease
that it has just created expires. -/
theorem overlong_lease_crashes :
    CommandLine.parse none overlongArguments = .ok overlong ∧
      ¬StartsConditionally EndsInOrder overlong "pod-0" 0 := by
  refine ⟨by decide +kernel, fun conditional => ?_⟩
  have crashes : (runFrom step (begin overlong "pod-0" 0) firstLease).bind exit? =
      some (.crashed .instantOverflow) := by decide +kernel
  obtain ⟨p, run, ended⟩ := Option.bind_eq_some_iff.1 crashes
  obtain ⟨-, -, -, ends⟩ := conditional firstLease p run
  have in_order := ends _ ended
  have told := (in_order.failed (show (101 : UInt8) ≠ 0 by decide)).1
  exact absurd told (show (101 : UInt8) ≠ 1 by decide)

end Process

end GatedManager.Startup
