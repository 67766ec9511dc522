/-!
# Invariants of runs

A run folds the step function of a machine over a list of events and fails with the first event
that is not possible. What each step keeps therefore holds at the end of a run when it held at its
start. Two runs that follow one another are one run.
-/

namespace GatedManager

universe u v

variable {State : Type u} {Event : Type v} {step : State → Event → Option State}

/-- The state after a list of events, `none` when one of them is not possible. -/
def runFrom (step : State → Event → Option State) (s : State) (events : List Event) :
    Option State :=
  events.foldlM step s

@[simp] theorem runFrom_nil (s : State) : runFrom step s [] = some s := rfl

theorem runFrom_cons (s : State) (event : Event) (events : List Event) :
    runFrom step s (event :: events) = (step s event).bind (runFrom step · events) := rfl

theorem runFrom_append (s : State) (first second : List Event) :
    runFrom step s (first ++ second) = (runFrom step s first).bind (runFrom step · second) := by
  simp only [runFrom, List.foldlM_append]
  rfl

/-- The induction over a run: one step keeps `P`, so every run does. -/
theorem runFrom_invariant {P : State → Prop}
    (kept : ∀ s event s', P s → step s event = some s' → P s') {s t : State}
    {events : List Event} (h : P s) (run : runFrom step s events = some t) : P t := by
  induction events generalizing s with
  | nil =>
      obtain rfl : s = t := by simpa using run
      exact h
  | cons event events ih =>
      rw [runFrom_cons, Option.bind_eq_some_iff] at run
      obtain ⟨s', hs, run⟩ := run
      exact ih (kept s event s' h hs) run

/-- The same where `P` also speaks of the events so far. -/
theorem runFrom_history {P : List Event → State → Prop}
    (kept : ∀ past s event s', P past s → step s event = some s' → P (past ++ [event]) s')
    {s t : State} {events : List Event} (h : P [] s) (run : runFrom step s events = some t) :
    P events t := by
  suffices onward : ∀ past s, P past s → runFrom step s events = some t → P (past ++ events) t from
    onward [] s h run
  clear h run
  induction events with
  | nil =>
      intro past s h run
      obtain rfl : s = t := by simpa using run
      simpa using h
  | cons event events ih =>
      intro past s h run
      rw [runFrom_cons, Option.bind_eq_some_iff] at run
      obtain ⟨s', hs, run⟩ := run
      simpa using ih (past ++ [event]) s' (kept past s event s' h hs) run

/-- One more step at the front of a run. -/
theorem runFrom_step {s s' t : State} {event : Event} {events : List Event}
    (hs : step s event = some s') (run : runFrom step s' events = some t) :
    runFrom step s (event :: events) = some t := by
  rw [runFrom_cons, hs]
  exact run

/-! ### Runs without certain events -/

/-- The step function without the events that `barred` names. -/
def barring (step : State → Event → Option State) (barred : State → Event → Bool) (s : State)
    (event : Event) : Option State :=
  if barred s event then none else step s event

variable {barred : State → Event → Bool}

theorem barring_eq_some_iff {s s' : State} {event : Event} :
    barring step barred s event = some s' ↔ barred s event = false ∧ step s event = some s' := by
  unfold barring
  split <;> simp [*]

/-- A run without the events is a run. -/
theorem run_of_barring {s t : State} {events : List Event}
    (run : runFrom (barring step barred) s events = some t) : runFrom step s events = some t := by
  induction events generalizing s with
  | nil => exact run
  | cons event events ih =>
      rw [runFrom_cons, Option.bind_eq_some_iff] at run
      obtain ⟨s', hs, run⟩ := run
      exact runFrom_step (barring_eq_some_iff.1 hs).2 (ih run)

end GatedManager
