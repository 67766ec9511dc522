import GatedManager.Manager.Tasks
import Mathlib.Data.List.Basic

/-!
# What a task group keeps

Tasks are numbered as they are spawned. Each of them goes on, has ended by itself or was cut off,
and a group keeps these apart. A task that goes on keeps its name.
-/

namespace GatedManager.Manager

namespace TaskGroup

variable {g g' : TaskGroup} {task : Nat} {ending : Ending} {name : String}

@[simp] theorem spawned_finish : (g.finish task ending).spawned = g.spawned := by
  unfold finish
  split <;> rfl

@[simp] theorem names_finish : (g.finish task ending).names = g.names := by
  unfold finish
  split <;> rfl

@[simp] theorem aborted_finish : (g.finish task ending).aborted = g.aborted := by
  unfold finish
  split <;> rfl

theorem live_finish : (g.finish task ending).live = g.live.erase task := by
  unfold finish
  split
  case isTrue => rfl
  case isFalse ended => exact (List.erase_of_not_mem ended).symm

theorem mem_ended_finish {p : Nat × Ending} (h : p ∈ (g.finish task ending).ended) :
    p ∈ g.ended ∨ p = (task, ending) := by
  unfold finish at h
  split at h
  case isTrue => simpa using h
  case isFalse => exact .inl h

/-- A look takes the first ending and forgets the name of its task. -/
theorem look?_eq_some_iff {failure? : Option ManagerError} :
    g.look? = some (failure?, g') ↔ ∃ task ending rest, g.ended = (task, ending) :: rest ∧
      failure? = ending.failure? ((g.name? task).getD "") ∧
      g' = { g with names := g.names.filter (·.1 ≠ task), ended := rest } := by
  unfold look?
  split
  case h_1 none_ended => simp [none_ended]
  case h_2 task ending rest is_ended =>
    constructor
    · rintro ⟨⟩
      exact ⟨task, ending, rest, is_ended, rfl, rfl⟩
    · rintro ⟨task, ending, rest, same, rfl, rfl⟩
      obtain ⟨⟨rfl, rfl⟩, rfl⟩ : (_ ∧ _) ∧ _ := by simpa using is_ended.symm.trans same
      rfl

theorem spawned_look {failure? : Option ManagerError} (h : g.look? = some (failure?, g')) :
    g'.spawned = g.spawned := by
  obtain ⟨_, _, _, -, -, rfl⟩ := look?_eq_some_iff.1 h
  rfl

theorem live_look {failure? : Option ManagerError} (h : g.look? = some (failure?, g')) :
    g'.live = g.live := by
  obtain ⟨_, _, _, -, -, rfl⟩ := look?_eq_some_iff.1 h
  rfl

theorem aborted_look {failure? : Option ManagerError} (h : g.look? = some (failure?, g')) :
    g'.aborted = g.aborted := by
  obtain ⟨_, _, _, -, -, rfl⟩ := look?_eq_some_iff.1 h
  rfl

theorem ended_look {failure? : Option ManagerError} (h : g.look? = some (failure?, g')) :
    g'.ended = g.ended.tail := by
  obtain ⟨_, _, _, is_ended, -, rfl⟩ := look?_eq_some_iff.1 h
  rw [is_ended, List.tail_cons]

theorem exists_look (h : g.ended ≠ []) : ∃ failure? g', g.look? = some (failure?, g') := by
  obtain ⟨⟨task, ending⟩, rest, is_ended⟩ := List.exists_cons_of_ne_nil h
  exact ⟨_, _, look?_eq_some_iff.2 ⟨task, ending, rest, is_ended, rfl, rfl⟩⟩

/-! ### The numbers of tasks -/

/-- The numbers of a group: those of the tasks that go on are distinct, and no other task has
one of them. -/
structure Sound (g : TaskGroup) : Prop where
  live_lt : ∀ t ∈ g.live, t < g.spawned
  live_nodup : g.live.Nodup
  names_lt : ∀ p ∈ g.names, p.1 < g.spawned
  ended_lt : ∀ p ∈ g.ended, p.1 < g.spawned
  ended_apart : ∀ p ∈ g.ended, p.1 ∉ g.live

theorem sound_empty : Sound {} := by
  constructor <;> simp

theorem Sound.spawn (h : g.Sound) (name : String) : (g.spawn name).Sound := by
  refine ⟨?_, ?_, ?_, ?_, ?_⟩
  · intro t is_live
    rcases List.mem_append.1 is_live with before | now
    · exact Nat.lt_succ_of_lt (h.live_lt t before)
    · exact List.mem_singleton.1 now ▸ Nat.lt_succ_self _
  · refine List.nodup_append.2 ⟨h.live_nodup, by simp, ?_⟩
    intro t before t' now same
    exact Nat.ne_of_lt (h.live_lt t before) (same.trans (List.mem_singleton.1 now))
  · intro p is_named
    rcases List.mem_append.1 is_named with before | now
    · exact Nat.lt_succ_of_lt (h.names_lt p before)
    · exact List.mem_singleton.1 now ▸ Nat.lt_succ_self _
  · exact fun p is_ended => Nat.lt_succ_of_lt (h.ended_lt p is_ended)
  · intro p is_ended is_live
    rcases List.mem_append.1 is_live with before | now
    · exact h.ended_apart p is_ended before
    · exact Nat.ne_of_lt (h.ended_lt p is_ended) (List.mem_singleton.1 now)

theorem Sound.finish (h : g.Sound) (live : task ∈ g.live) (ending : Ending) :
    (g.finish task ending).Sound := by
  refine ⟨?_, ?_, ?_, ?_, ?_⟩
  · rw [live_finish, spawned_finish]
    exact fun t is_live => h.live_lt t (List.mem_of_mem_erase is_live)
  · rw [live_finish]
    exact h.live_nodup.erase task
  · rw [names_finish, spawned_finish]
    exact h.names_lt
  · intro p is_ended
    rw [spawned_finish]
    rcases mem_ended_finish is_ended with before | rfl
    · exact h.ended_lt p before
    · exact h.live_lt task live
  · intro p is_ended
    rw [live_finish]
    rcases mem_ended_finish is_ended with before | rfl
    · exact fun is_live => h.ended_apart p before (List.mem_of_mem_erase is_live)
    · exact h.live_nodup.not_mem_erase

theorem Sound.look {failure? : Option ManagerError} (h : g.Sound)
    (looks : g.look? = some (failure?, g')) : g'.Sound := by
  obtain ⟨task, ending, rest, is_ended, -, rfl⟩ := look?_eq_some_iff.1 looks
  have later : ∀ p ∈ rest, p ∈ g.ended :=
    fun p is_later => is_ended ▸ List.mem_cons_of_mem _ is_later
  exact ⟨h.live_lt, h.live_nodup, fun p is_named => h.names_lt p (List.mem_filter.1 is_named).1,
    fun p is_later => h.ended_lt p (later p is_later),
    fun p is_later => h.ended_apart p (later p is_later)⟩

theorem Sound.abort (h : g.Sound) : g.abort.Sound :=
  ⟨nofun, List.nodup_nil, h.names_lt, h.ended_lt, fun _ _ => nofun⟩

/-! ### The names of the tasks that go on -/

/-- Some task that goes on has this name. -/
def Runs (g : TaskGroup) (name : String) : Prop := ∃ t ∈ g.live, g.name? t = some name

theorem Sound.name?_spawned (h : g.Sound) (name : String) :
    (g.spawn name).name? g.spawned = some name := by
  -- no earlier name hides that of the new task
  have fresh : g.names.lookup g.spawned = none := by
    rw [List.lookup_eq_none_iff]
    intro p is_named
    exact bne_iff_ne.2 (Nat.ne_of_gt (h.names_lt p is_named))
  simp [TaskGroup.spawn, name?, List.lookup_append, fresh]

theorem Sound.runs_spawn (h : g.Sound) (name : String) : (g.spawn name).Runs name :=
  ⟨g.spawned, List.mem_append_right _ (List.mem_singleton_self _), h.name?_spawned name⟩

/-- The end of a task of another name changes nothing. -/
theorem Runs.finish {other : String} (h : g.Runs name) (named : g.name? task = some other)
    (differs : other ≠ name) : (g.finish task ending).Runs name := by
  obtain ⟨t, is_live, named_t⟩ := h
  have apart : t ≠ task := by
    rintro rfl
    exact differs (Option.some.inj (named.symm.trans named_t))
  refine ⟨t, ?_, ?_⟩
  · rw [live_finish]
    exact (List.mem_erase_of_ne apart).2 is_live
  · rw [name?, names_finish]
    exact named_t

theorem lookup_filter_ne {names : List (Nat × String)} {t task : Nat} (apart : t ≠ task) :
    (names.filter (·.1 ≠ task)).lookup t = names.lookup t := by
  induction names with
  | nil => rfl
  | cons p rest ih =>
      obtain ⟨number, name⟩ := p
      by_cases gone : number = task
      · subst gone
        rw [List.filter_cons_of_neg (by simp), ih, List.lookup_cons, beq_false_of_ne apart]
      · rw [List.filter_cons_of_pos (by simpa using gone), List.lookup_cons, List.lookup_cons, ih]

theorem Runs.look {failure? : Option ManagerError} (h : g.Runs name) (sound : g.Sound)
    (looks : g.look? = some (failure?, g')) : g'.Runs name := by
  obtain ⟨task, ending, rest, is_ended, -, rfl⟩ := look?_eq_some_iff.1 looks
  obtain ⟨t, is_live, named⟩ := h
  have apart : t ≠ task := by
    rintro rfl
    exact sound.ended_apart (t, ending) (is_ended ▸ List.mem_cons_self) is_live
  exact ⟨t, is_live, (lookup_filter_ne apart).trans named⟩

/-! ### What became of the tasks -/

/-- Every task goes on, is one of the `completed` ones or was cut off, and only one of these. -/
structure Accounts (g : TaskGroup) (completed : List Nat) : Prop where
  sound : g.Sound
  parted : ∀ t < g.spawned, t ∈ g.live ∨ t ∈ completed ∨ t ∈ g.aborted
  gone : ∀ t, t ∈ completed ∨ t ∈ g.aborted → t < g.spawned ∧ t ∉ g.live
  whole : ∀ t ∈ completed, t ∉ g.aborted

variable {completed : List Nat}

theorem accounts_empty : Accounts {} [] := by
  refine ⟨sound_empty, ?_, ?_, ?_⟩ <;> simp

theorem Accounts.spawn (h : g.Accounts completed) (name : String) :
    (g.spawn name).Accounts completed := by
  refine ⟨h.sound.spawn name, ?_, ?_, h.whole⟩
  · intro t lt
    rcases Nat.lt_succ_iff_lt_or_eq.1 lt with before | rfl
    · exact (h.parted t before).imp_left (List.mem_append_left _)
    · exact .inl (List.mem_append_right _ (List.mem_singleton_self _))
  · intro t gone
    obtain ⟨lt, not_live⟩ := h.gone t gone
    refine ⟨Nat.lt_succ_of_lt lt, fun is_live => ?_⟩
    rcases List.mem_append.1 is_live with before | now
    · exact not_live before
    · exact Nat.ne_of_lt lt (List.mem_singleton.1 now)

theorem Accounts.finish (h : g.Accounts completed) (live : task ∈ g.live) (ending : Ending) :
    (g.finish task ending).Accounts (task :: completed) := by
  refine ⟨h.sound.finish live ending, ?_, ?_, ?_⟩
  · rw [spawned_finish, live_finish, aborted_finish]
    intro t lt
    by_cases same : t = task
    · exact .inr (.inl (same ▸ List.mem_cons_self))
    · rcases h.parted t lt with is_live | gone | cut
      · exact .inl ((List.mem_erase_of_ne same).2 is_live)
      · exact .inr (.inl (List.mem_cons_of_mem _ gone))
      · exact .inr (.inr cut)
  · rw [spawned_finish, live_finish, aborted_finish]
    intro t gone
    by_cases same : t = task
    · subst same
      exact ⟨h.sound.live_lt t live, h.sound.live_nodup.not_mem_erase⟩
    · obtain ⟨lt, not_live⟩ := h.gone t (by simpa [same] using gone)
      exact ⟨lt, fun is_live => not_live (List.mem_of_mem_erase is_live)⟩
  · rw [aborted_finish]
    exact List.forall_mem_cons.2 ⟨fun cut => (h.gone task (.inr cut)).2 live, h.whole⟩

theorem Accounts.look {failure? : Option ManagerError} (h : g.Accounts completed)
    (looks : g.look? = some (failure?, g')) : g'.Accounts completed := by
  refine ⟨h.sound.look looks, ?_, ?_, ?_⟩
  · rw [spawned_look looks, live_look looks, aborted_look looks]
    exact h.parted
  · rw [spawned_look looks, live_look looks, aborted_look looks]
    exact h.gone
  · rw [aborted_look looks]
    exact h.whole

theorem Accounts.abort (h : g.Accounts completed) : g.abort.Accounts completed := by
  refine ⟨h.sound.abort, ?_, ?_, ?_⟩
  · intro t lt
    rcases h.parted t lt with is_live | gone | cut
    · exact .inr (.inr (List.mem_append_right _ is_live))
    · exact .inr (.inl gone)
    · exact .inr (.inr (List.mem_append_left _ cut))
  · intro t gone
    refine ⟨?_, nofun⟩
    rcases gone with gone | cut
    · exact (h.gone t (.inl gone)).1
    · rcases List.mem_append.1 cut with before | is_live
      · exact (h.gone t (.inr before)).1
      · exact h.sound.live_lt t is_live
  · intro t gone cut
    rcases List.mem_append.1 cut with before | is_live
    · exact h.whole t gone before
    · exact (h.gone t (.inl gone)).2 is_live

/-- When no task goes on and none was cut off, all of them are completed. -/
theorem Accounts.all_completed (h : g.Accounts completed) (idle : g.live = [])
    (uncut : g.aborted = []) : ∀ t < g.spawned, t ∈ completed := by
  intro t lt
  simpa [idle, uncut] using h.parted t lt

/-! ### The first failure -/

/-- What the first failure means among the tasks that have ended and have not been looked at. -/
def firstFailure? (g : TaskGroup) : Option ManagerError :=
  g.ended.findSome? fun p => p.2.failure? ((g.name? p.1).getD "")

/-- The tasks that have not been looked at have the names that stand at their numbers in a list, in
which names may repeat. -/
structure Named (g : TaskGroup) (registered : List String) : Prop where
  sound : g.Sound
  once : (g.ended.map Prod.fst).Nodup
  named : ∀ t, t ∈ g.live ∨ t ∈ g.ended.map Prod.fst →
    ∃ name, registered[t]? = some name ∧ g.name? t = some name

variable {registered : List String}

theorem named_empty (registered : List String) : Named {} registered :=
  ⟨sound_empty, List.nodup_nil, by simp⟩

theorem name?_spawn {t : Nat} {first : String} (named : g.name? t = some first) (name : String) :
    (g.spawn name).name? t = some first := by
  have before : g.names.lookup t = some first := named
  simp [TaskGroup.spawn, name?, List.lookup_append, before]

theorem Named.spawn (h : g.Named registered) (next : registered[g.spawned]? = some name) :
    (g.spawn name).Named registered := by
  refine ⟨h.sound.spawn name, h.once, fun t unseen => ?_⟩
  by_cases new : t = g.spawned
  · subst new
    exact ⟨name, next, h.sound.name?_spawned name⟩
  · have before : t ∈ g.live ∨ t ∈ g.ended.map Prod.fst := by
      refine unseen.imp_left fun is_live => ?_
      exact (List.mem_append.1 is_live).resolve_right fun now => new (List.mem_singleton.1 now)
    obtain ⟨first, is_registered, named⟩ := h.named t before
    exact ⟨first, is_registered, name?_spawn named name⟩

theorem ended_finish (live : task ∈ g.live) :
    (g.finish task ending).ended = g.ended ++ [(task, ending)] := by
  rw [TaskGroup.finish, if_pos live]

theorem Named.finish (h : g.Named registered) (live : task ∈ g.live) (ending : Ending) :
    (g.finish task ending).Named registered := by
  have unseen : task ∉ g.ended.map Prod.fst := by
    intro gone
    obtain ⟨p, is_ended, rfl⟩ := List.mem_map.1 gone
    exact h.sound.ended_apart p is_ended live
  refine ⟨h.sound.finish live ending, ?_, fun t which => ?_⟩
  · rw [ended_finish live, List.map_append]
    refine List.nodup_append.2 ⟨h.once, by simp, ?_⟩
    rintro t before t' now rfl
    obtain rfl : t = task := by simpa using now
    exact unseen before
  · have before : t ∈ g.live ∨ t ∈ g.ended.map Prod.fst := by
      rw [live_finish, ended_finish live, List.map_append, List.mem_append] at which
      rcases which with still | before | now
      · exact .inl (List.mem_of_mem_erase still)
      · exact .inr before
      · obtain rfl : t = task := by simpa using now
        exact .inl live
    rw [name?, names_finish]
    exact h.named t before

theorem Named.look {failure? : Option ManagerError} (h : g.Named registered)
    (looks : g.look? = some (failure?, g')) : g'.Named registered := by
  refine ⟨h.sound.look looks, ?_, ?_⟩
  all_goals
    obtain ⟨task, ending, rest, is_ended, -, rfl⟩ := look?_eq_some_iff.1 looks
    have once : (task :: rest.map Prod.fst).Nodup := by simpa [is_ended] using h.once
  · exact (List.nodup_cons.1 once).2
  · intro t which
    have apart : t ≠ task := by
      rintro rfl
      rcases which with is_live | later
      · exact h.sound.ended_apart (t, ending) (is_ended ▸ List.mem_cons_self) is_live
      · exact (List.nodup_cons.1 once).1 later
    have before : t ∈ g.live ∨ t ∈ g.ended.map Prod.fst :=
      which.imp_right fun later => by simp [is_ended, List.mem_map.1 later]
    obtain ⟨name, is_registered, named⟩ := h.named t before
    exact ⟨name, is_registered, (lookup_filter_ne apart).trans named⟩

theorem Named.abort (h : g.Named registered) : g.abort.Named registered :=
  ⟨h.sound.abort, h.once, fun t which => h.named t (which.imp_left nofun)⟩

/-- A task that ends is the first that has failed only when none has failed before. -/
theorem Named.firstFailure?_finish (h : g.Named registered) (live : task ∈ g.live)
    (is_registered : registered[task]? = some name) (ending : Ending) :
    (g.finish task ending).firstFailure? = g.firstFailure?.or (ending.failure? name) := by
  obtain ⟨known, registered_known, named⟩ := h.named task (.inl live)
  obtain rfl : known = name := Option.some.inj (registered_known.symm.trans is_registered)
  unfold firstFailure?
  rw [ended_finish live, List.findSome?_append]
  simp only [name?, names_finish] at named ⊢
  simp [named]

theorem Named.firstFailure?_spawn (h : g.Named registered) (name : String) :
    (g.spawn name).firstFailure? = g.firstFailure? := by
  simp only [firstFailure?, ← List.head?_filterMap]
  refine congrArg List.head? (List.filterMap_congr fun p is_ended => ?_)
  obtain ⟨first, -, named⟩ := h.named p.1 (.inr (List.mem_map_of_mem is_ended))
  rw [name?_spawn named, named]

/-- The look at the task that ended first finds the first failure, or leaves it. -/
theorem Named.firstFailure?_look {failure? : Option ManagerError} (h : g.Named registered)
    (looks : g.look? = some (failure?, g')) : g.firstFailure? = failure?.or g'.firstFailure? := by
  obtain ⟨task, ending, rest, is_ended, rfl, rfl⟩ := look?_eq_some_iff.1 looks
  have once : (task :: rest.map Prod.fst).Nodup := by simpa [is_ended] using h.once
  have kept : rest.findSome? (fun p => p.2.failure? ((g.name? p.1).getD "")) =
      rest.findSome? fun p => p.2.failure?
        (((g.names.filter (·.1 ≠ task)).lookup p.1).getD "") := by
    simp only [← List.head?_filterMap]
    refine congrArg List.head? (List.filterMap_congr fun p later => ?_)
    have apart : p.1 ≠ task := by
      rintro rfl
      exact (List.nodup_cons.1 once).1 (List.mem_map_of_mem later)
    rw [lookup_filter_ne apart, name?]
  simp only [firstFailure?, is_ended, List.findSome?_cons, kept]
  cases ending.failure? ((g.name? task).getD "") <;> rfl

end TaskGroup

end GatedManager.Manager
