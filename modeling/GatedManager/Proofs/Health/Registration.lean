import GatedManager.Health.Endpoints
import GatedManager.Proofs.Text.NameSet
import Mathlib.Data.List.Induction
import Mathlib.Data.List.Nodup

/-!
# Registered checks

The checks of a process come from a history of events: a check is offered to one of the probes, or
a registered check changes what it says. A check is taken when its name is admissible and new to
the probe; one that is rejected leaves everything as it was. After every history the names of a
probe are those of the admissible checks that it was offered, each once and in ascending order.
-/

namespace GatedManager.Health

/-- The names that a check can be registered under. -/
def Admissible (name : String) : Prop := name ≠ "" ∧ '/' ∉ name.toList

/-- What a fault says of a name that is offered to a set with these names. -/
def AddFault.Concerns (names : List String) (name : String) : AddFault → Prop
  | emptyName => name = ""
  | slashInName => '/' ∈ name.toList
  | duplicate => Admissible name ∧ name ∈ names

theorem AddFault.Concerns.mem {names : List String} {name : String} {fault : AddFault}
    (h : fault.Concerns names name) (admissible : Admissible name) : name ∈ names := by
  cases fault with
  | emptyName => exact absurd h admissible.1
  | slashInName => exact absurd h admissible.2
  | duplicate => exact h.2

namespace CheckSet

variable {set set' : CheckSet} {check other : Check} {checks : List Check} {name : String}
variable {failure : Option String} {probe : Probe}

/-! ### One set -/

/-- A check that is new to a set takes the place of its name among the names. -/
theorem map_name_insert (fresh : check.name ∉ checks.map (·.name)) :
    (insert check checks).map (·.name) =
      Text.NameSet.insertSorted check.name (checks.map (·.name)) := by
  induction checks with
  | nil => rfl
  | cons first rest ih =>
      rw [List.map_cons, List.mem_cons, not_or] at fresh
      rw [List.map_cons, Text.NameSet.insertSorted, if_neg fresh.1, insert, ← ih fresh.2]
      split <;> rfl

theorem mem_names : name ∈ set.names ↔ ∃ check ∈ set.checks, check.name = name := List.mem_map

theorem isSome_find? : (set.find? name).isSome ↔ name ∈ set.names := by
  simp [find?, mem_names]

@[simp] theorem names_update : (set.update name failure).names = set.names := by
  rw [names, update, List.map_map]
  refine List.map_congr_left fun check _ => ?_
  rw [Function.comp_apply]
  split <;> rfl

theorem add_eq_ok_iff : set.add check = .ok set' ↔ Admissible check.name ∧
    check.name ∉ set.names ∧ { set with checks := insert check set.checks } = set' := by
  simp only [add, isSome_find?, List.contains_iff_mem]
  split
  · next empty => simp [Admissible, empty]
  split
  · next slash => simp [Admissible, slash]
  split
  · next taken => simp [taken]
  · next some_name no_slash fresh => simp [Admissible, some_name, no_slash, fresh]

/-- A check is rejected with the fault that its name has. -/
theorem add_eq_error_iff {fault : AddFault} :
    set.add check = .error fault ↔ fault.Concerns set.names check.name := by
  simp only [add, isSome_find?, List.contains_iff_mem]
  split
  · next empty => cases fault <;> simp [AddFault.Concerns, Admissible, empty]
  split
  · next some_name slash => cases fault <;> simp [AddFault.Concerns, Admissible, some_name, slash]
  split
  · next some_name no_slash taken =>
    cases fault <;> simp [AddFault.Concerns, Admissible, some_name, no_slash, taken]
  · next some_name no_slash fresh =>
    cases fault <;> simp [AddFault.Concerns, some_name, no_slash, fresh]

theorem names_of_add (taken : set.add check = .ok set') :
    set'.names = Text.NameSet.insertSorted check.name set.names := by
  obtain ⟨-, fresh, rfl⟩ := add_eq_ok_iff.1 taken
  exact map_name_insert fresh

/-- The set of a probe, with every name admissible and in its place. -/
structure Registered (set : CheckSet) (probe : Probe) : Prop where
  probe_eq : set.probe = probe
  ascends : set.names.Pairwise (· < ·)
  admissible : ∀ name ∈ set.names, Admissible name

namespace Registered

theorem empty : Registered ⟨probe, []⟩ probe :=
  ⟨rfl, List.Pairwise.nil, fun _ h => nomatch h⟩

theorem add (h : set.Registered probe) (taken : set.add check = .ok set') :
    set'.Registered probe := by
  have names := names_of_add taken
  obtain ⟨admissible, -, rfl⟩ := add_eq_ok_iff.1 taken
  refine ⟨h.probe_eq, ?_, ?_⟩ <;> rw [names]
  · exact Text.NameSet.pairwise_insertSorted h.ascends
  · intro name found
    rcases Text.NameSet.mem_insertSorted.1 found with rfl | found
    · exact admissible
    · exact h.admissible name found

theorem update (h : set.Registered probe) : (set.update name failure).Registered probe := by
  refine ⟨h.probe_eq, ?_, ?_⟩ <;> rw [names_update]
  · exact h.ascends
  · exact h.admissible

/-- Different checks have different names. -/
theorem eq_of_name_eq (h : set.Registered probe) (hc : check ∈ set.checks) (ho : other ∈ set.checks)
    (same : check.name = other.name) : check = other := by
  have nodup : set.names.Nodup := h.ascends.imp ne_of_lt
  exact List.inj_on_of_nodup_map nodup hc ho same

theorem find?_eq (h : set.Registered probe) (found : check ∈ set.checks) :
    set.find? check.name = some check := by
  obtain ⟨other, first⟩ :=
    Option.isSome_iff_exists.1 (isSome_find?.2 (mem_names.2 ⟨check, found, rfl⟩))
  have same : other.name = check.name := by simpa using List.find?_some first
  rw [first, h.eq_of_name_eq (List.mem_of_find?_eq_some first) found same]

end Registered

end CheckSet

/-! ### Histories -/

/-- What happens to the checks of a probe. -/
inductive Change
  | offer (check : Check)
  | turn (name : String) (failure : Option String)

/-- The set after a change: a check that is rejected leaves it as it was. -/
def CheckSet.after (set : CheckSet) : Change → CheckSet
  | .offer check =>
    match set.add check with
    | .ok set' => set'
    | .error _ => set
  | .turn name failure => set.update name failure

namespace CheckSet

variable {set : CheckSet} {check : Check} {change : Change} {name : String} {probe : Probe}

theorem after_offer_of_error {fault : AddFault} (rejected : set.add check = .error fault) :
    set.after (.offer check) = set := by
  rw [after, rejected]

theorem Registered.after (h : set.Registered probe) (change : Change) :
    (set.after change).Registered probe := by
  cases change with
  | offer check =>
      rw [CheckSet.after]
      split
      · next taken => exact h.add taken
      · exact h
  | turn name failure => exact h.update

theorem mem_names_after : name ∈ (set.after change).names ↔
    name ∈ set.names ∨ Admissible name ∧ ∃ check, change = .offer check ∧ check.name = name := by
  cases change with
  | offer check =>
      have offered : (∃ other, Change.offer check = .offer other ∧ other.name = name) ↔
          name = check.name := by
        simp [eq_comm]
      rw [offered]
      cases taken : set.add check with
      | ok set' =>
          obtain ⟨admissible, -, -⟩ := add_eq_ok_iff.1 taken
          simp only [after, taken, names_of_add taken, Text.NameSet.mem_insertSorted]
          rw [or_comm]
          refine or_congr_right ⟨?_, And.right⟩
          rintro rfl
          exact ⟨admissible, rfl⟩
      | error fault =>
          rw [after_offer_of_error taken]
          refine ⟨.inl, ?_⟩
          rintro (found | ⟨admissible, rfl⟩)
          · exact found
          · exact (add_eq_error_iff.1 taken).mem admissible
  | turn turned failure => simp [after]

end CheckSet

/-- A change to the checks of one of the probes. -/
structure Event where
  probe : Probe
  change : Change

namespace Probes

variable {probes : Probes} {probe other : Probe} {check : Check} {event : Event} {name : String}
variable {checks : CheckSet} {events : List Event}

/-- The sets after an event. -/
def after (probes : Probes) (event : Event) : Probes :=
  probes.set ((probes.get event.probe).after event.change) event.probe

/-- The sets after a history of events. -/
def reached (events : List Event) : Probes := events.foldl after {}

theorem set_get : probes.set (probes.get probe) probe = probes := by
  cases probe <;> rfl

theorem get_set : (probes.set checks other).get probe =
    if probe = other then checks else probes.get probe := by
  cases probe <;> cases other <;> rfl

theorem get_after_self : (probes.after event).get event.probe =
    (probes.get event.probe).after event.change := by
  rw [after, get_set, if_pos rfl]

theorem get_after_of_ne (different : probe ≠ event.probe) :
    (probes.after event).get probe = probes.get probe := by
  rw [after, get_set, if_neg different]

theorem reached_concat : reached (events ++ [event]) = (reached events).after event :=
  List.foldl_concat ..

/-- Every history leaves the names of a probe admissible and in ascending order. -/
theorem registered_reached (events : List Event) (probe : Probe) :
    ((reached events).get probe).Registered probe := by
  induction events using List.reverseRecOn with
  | nil => cases probe <;> exact .empty
  | append_singleton events event ih =>
      rw [reached_concat]
      by_cases same : probe = event.probe
      · subst same
        rw [get_after_self]
        exact ih.after event.change
      · rw [get_after_of_ne same]
        exact ih

/-- The names of a probe are those of the admissible checks that it was offered. -/
theorem mem_names_reached : name ∈ ((reached events).get probe).names ↔
    Admissible name ∧ ∃ check, ⟨probe, .offer check⟩ ∈ events ∧ check.name = name := by
  induction events using List.reverseRecOn with
  | nil => cases probe <;> simp [reached, get, CheckSet.names]
  | append_singleton events event ih =>
      have more : (∃ check, (⟨probe, .offer check⟩ : Event) ∈ events ++ [event] ∧
            check.name = name) ↔
          (∃ check, (⟨probe, .offer check⟩ : Event) ∈ events ∧ check.name = name) ∨
            ∃ check, (⟨probe, .offer check⟩ : Event) = event ∧ check.name = name := by
        simp only [List.mem_append, List.mem_singleton, or_and_right, exists_or]
      rw [reached_concat, more, and_or_left, ← ih]
      obtain ⟨changed, change⟩ := event
      by_cases same : probe = changed
      · subst same
        rw [get_after_self, CheckSet.mem_names_after]
        simp only [Event.mk.injEq, true_and, eq_comm (b := change)]
      · rw [get_after_of_ne same]
        simp [same]

/-- A check that is rejected changes nothing, now or later. -/
theorem reached_rejected {fault : AddFault} {later : List Event}
    (rejected : ((reached events).get probe).add check = .error fault) :
    reached (events ++ ⟨probe, .offer check⟩ :: later) = reached (events ++ later) := by
  have same : (reached events).after ⟨probe, .offer check⟩ = reached events := by
    rw [after, CheckSet.after_offer_of_error rejected, set_get]
  rw [reached, List.foldl_append, List.foldl_cons]
  change later.foldl after ((reached events).after _) = _
  rw [same, reached, reached, List.foldl_append]

end Probes

end GatedManager.Health
