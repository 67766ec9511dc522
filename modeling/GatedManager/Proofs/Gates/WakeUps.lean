import GatedManager.Proofs.Gates.History
import GatedManager.Proofs.Runs

/-!
# Wake-ups

A reflector that has taken an event wakes the accessor only afterwards, wake-ups do not add up, and
the accessor reads one store after the other while both go on changing. Still no event is missed:
from an event until the accessor has looked at what it led to, some wake-up is due or kept, or the
accessor is on its way with what is still in the stores.
-/

namespace GatedManager.Gates

open Api (ClusterVersion FeatureGate)
open Watch (Event)

/-- The two reflectors, the clock of the resyncs and the accessor, between two of their steps. -/
structure Watching where
  following : Following
  /-- Whether the reflector of the cluster version still has to wake the accessor. -/
  versionDue : Bool := false
  /-- Whether the reflector of the feature gates still has to wake the accessor. -/
  gateDue : Bool := false
  /-- Whether a reflector has ever taken an event. -/
  applied : Bool := false
  /-- What the accessor has looked at last. -/
  looked : Option (Option ClusterVersion × Option FeatureGate) := none

/-- One step of one of the tasks. -/
inductive Move
  | versionEvent (event : Event ClusterVersion)
  | versionWake
  | gateEvent (event : Event FeatureGate)
  | gateWake
  /-- A watch fails: it is tried anew and no event is taken. -/
  | fault
  | resync
  | accessor

/-- What the accessor looks at with its next step. -/
def Following.sight? (f : Following) : Option (Option ClusterVersion × Option FeatureGate) :=
  match f.stage with
  | .readBoth clusterVersion featureGate => some (clusterVersion, featureGate)
  | _ => none

namespace Watching

/-- A reflector takes no further event before it has woken the accessor. -/
def step (w : Watching) : Move → Option Watching
  | .versionEvent event =>
    if w.versionDue then none
    else some { w with following := w.following.onClusterVersion event, versionDue := true,
                       applied := true }
  | .versionWake =>
    if w.versionDue then some { w with following := w.following.wake, versionDue := false }
    else none
  | .gateEvent event =>
    if w.gateDue then none
    else some { w with following := w.following.onFeatureGate event, gateDue := true,
                       applied := true }
  | .gateWake =>
    if w.gateDue then some { w with following := w.following.wake, gateDue := false } else none
  | .fault => some w
  | .resync => some { w with following := w.following.wake }
  | .accessor =>
    some { w with following := w.following.step, looked := w.following.sight?.or w.looked }

/-- Nothing has happened yet. -/
def begin (desiredVersion missingVersion : String) : Watching :=
  { following := .fresh desiredVersion missingVersion }

/-- What the stores hold now. -/
def contents (w : Watching) : Option ClusterVersion × Option FeatureGate :=
  (w.following.clusterVersion?, w.following.featureGate?)

/-- The accessor waits and nothing is on its way to wake it. -/
structure Quiet (w : Watching) : Prop where
  waiting : w.following.stage = .waiting
  not_woken : w.following.woken = false
  versionDue : w.versionDue = false
  gateDue : w.gateDue = false

/-! ### What a step keeps -/

/-- What the accessor has read so far, or has looked at, is what the stores hold now. -/
def Current (w : Watching) : Prop :=
  match w.following.stage with
  | .woken => True
  | .readVersion clusterVersion => clusterVersion = w.following.clusterVersion?
  | .readBoth clusterVersion featureGate => (clusterVersion, featureGate) = w.contents
  | .ready | .waiting => w.looked = some w.contents

/-- An event that was taken is heard: a wake-up is due or kept, or the accessor is up to date. -/
def Heard (w : Watching) : Prop :=
  w.applied = true → w.versionDue = true ∨ w.gateDue = true ∨ w.following.woken = true ∨ w.Current

/-- The accessor has published what it has looked at. -/
def Published (w : Watching) : Prop :=
  ∀ sight ∈ w.looked, (w.following.access.sync sight.1 sight.2).2 = w.following.access

variable {w w' : Watching} {move : Move}

theorem Quiet.heard (quiet : w.Quiet) (heard : w.Heard) :
    w.applied = false ∨ w.looked = some w.contents := by
  cases applied : w.applied with
  | false => exact .inl rfl
  | true =>
      refine .inr ?_
      rcases heard applied with due | due | woken | current
      · exact absurd (due.symm.trans quiet.versionDue) (by decide)
      · exact absurd (due.symm.trans quiet.gateDue) (by decide)
      · exact absurd (woken.symm.trans quiet.not_woken) (by decide)
      · rwa [Current, quiet.waiting] at current

/-- After a wake-up the accessor is about to read both stores, or the wake-up is kept. -/
theorem heard_wake {f : Following} (due due' applied : Bool)
    (looked : Option (Option ClusterVersion × Option FeatureGate)) :
    Heard ⟨f.wake, due, due', applied, looked⟩ := by
  intro _
  refine .inr (.inr ?_)
  cases stage : f.stage with
  | waiting => exact .inr (by simp [Current, Following.wake, stage])
  | _ => exact .inl (by simp [Following.wake, stage])

theorem Heard.accessor (h : w.Heard) (hs : w.step .accessor = some w') : w'.Heard := by
  obtain rfl := Option.some.inj hs
  intro applied
  rcases h applied with due | due | woken | current
  · exact .inl due
  · exact .inr (.inl due)
  -- the accessor takes the wake-up, or leaves it kept
  · cases stage : w.following.stage with
    | ready => exact .inr (.inr (.inr (by simp [Current, Following.step, stage, woken])))
    | _ =>
        refine .inr (.inr (.inl ?_))
        simp [Following.step, stage, woken, Following.look]
  -- the stores stay as they are, so what was read before is still in them
  · refine .inr (.inr (.inr ?_))
    rw [Current] at current
    cases stage : w.following.stage <;> rw [stage] at current
    case ready =>
      by_cases woken : w.following.woken = true
      · simp [Current, Following.step, stage, woken]
      · simpa [Current, Following.step, stage, woken, Following.sight?, contents,
          Following.clusterVersion?, Following.featureGate?] using current
    case waiting => simpa [Current, Following.step, stage, Following.sight?] using current
    case woken => simp [Current, Following.step, stage, Following.clusterVersion?]
    case readVersion clusterVersion =>
      simp [Current, Following.step, stage, current, contents, Following.clusterVersion?,
        Following.featureGate?]
    case readBoth clusterVersion featureGate =>
      simpa [Current, Following.step, stage, Following.sight?, Following.look, contents,
        Following.clusterVersion?, Following.featureGate?] using current

/-- No step makes an event unheard. -/
theorem Heard.step (h : w.Heard) (hs : w.step move = some w') : w'.Heard := by
  cases move with
  | versionEvent event =>
      simp only [Watching.step, Option.ite_none_left_eq_some, Option.some.injEq] at hs
      obtain ⟨-, rfl⟩ := hs
      exact fun _ => .inl rfl
  | gateEvent event =>
      simp only [Watching.step, Option.ite_none_left_eq_some, Option.some.injEq] at hs
      obtain ⟨-, rfl⟩ := hs
      exact fun _ => .inr (.inl rfl)
  | versionWake | gateWake =>
      simp only [Watching.step, Option.ite_none_right_eq_some, Option.some.injEq] at hs
      obtain ⟨-, rfl⟩ := hs
      exact heard_wake _ _ _ _
  | fault =>
      obtain rfl := Option.some.inj hs
      exact h
  | resync =>
      obtain rfl := Option.some.inj hs
      exact heard_wake _ _ _ _
  | accessor => exact h.accessor hs

theorem Published.step (h : w.Published) (hs : w.step move = some w') : w'.Published := by
  cases move with
  | versionEvent | gateEvent =>
      simp only [Watching.step, Option.ite_none_left_eq_some, Option.some.injEq] at hs
      obtain ⟨-, rfl⟩ := hs
      exact h
  | versionWake | gateWake =>
      simp only [Watching.step, Option.ite_none_right_eq_some, Option.some.injEq] at hs
      obtain ⟨-, rfl⟩ := hs
      simpa only [Published, Following.access_wake] using h
  | fault =>
      obtain rfl := Option.some.inj hs
      exact h
  | resync =>
      obtain rfl := Option.some.inj hs
      simpa only [Published, Following.access_wake] using h
  | accessor =>
      obtain rfl := Option.some.inj hs
      cases stage : w.following.stage with
      | readBoth clusterVersion featureGate =>
          simp [Published, Following.step, stage, Following.sight?, Following.look,
            Access.sync_again]
      | ready =>
          simp only [Published, Following.step, stage, Following.sight?, Option.none_or]
          split <;> exact h
      | _ => simpa [Published, Following.step, stage, Following.sight?] using h

theorem heard_begin (desiredVersion missingVersion : String) :
    (begin desiredVersion missingVersion).Heard := nofun

theorem published_begin (desiredVersion missingVersion : String) :
    (begin desiredVersion missingVersion).Published := by
  intro sight looked
  cases looked

/-! ### Whole runs -/

variable {desiredVersion missingVersion : String} {moves : List Move}

theorem heard_of_run (run : runFrom step (begin desiredVersion missingVersion) moves = some w) :
    w.Heard :=
  runFrom_invariant (fun _ _ _ h hs => Heard.step h hs) (heard_begin _ _) run

theorem published_of_run
    (run : runFrom step (begin desiredVersion missingVersion) moves = some w) : w.Published :=
  runFrom_invariant (fun _ _ _ h hs => Published.step h hs) (published_begin _ _) run

/-- When the accessor waits and nothing is on its way to wake it, another look at the stores would
change nothing: the snapshot that is published is the one for what they hold. -/
theorem up_to_date_when_quiet
    (run : runFrom step (begin desiredVersion missingVersion) moves = some w) (quiet : w.Quiet)
    (applied : w.applied = true) :
    (w.following.access.sync w.following.clusterVersion? w.following.featureGate?).2 =
      w.following.access := by
  rcases quiet.heard (heard_of_run run) with unapplied | looked
  · exact absurd (applied.symm.trans unapplied) (by decide)
  · exact published_of_run run _ looked

end Watching

end GatedManager.Gates
