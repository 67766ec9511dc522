import GatedManager.Manager.Error

/-!
# Task groups

A group of named tasks whose first failure counts. Tasks get numbers in the order in which they
are spawned, and names may repeat. A task that has ended is looked at once, in the order of
ending; its name is forgotten then.
-/

namespace GatedManager.Manager

/-- How a task ended by itself. -/
inductive Ending
  | clean
  | failed (error : ManagerError)
  | panicked
deriving Repr, DecidableEq

/-- What the ending of a task called `name` means to its group. -/
def Ending.failure? (name : String) : Ending → Option ManagerError
  | clean => none
  | failed error => some error
  | panicked => some (.runnablePanicked name)

structure TaskGroup where
  /-- How many tasks were spawned. -/
  spawned : Nat := 0
  /-- The names of the tasks that have not been looked at. -/
  names : List (Nat × String) := []
  /-- The tasks that go on. -/
  live : List Nat := []
  /-- The tasks that have ended and have not been looked at, the first one first. -/
  ended : List (Nat × Ending) := []
  /-- The tasks that were cut off before they ended. -/
  aborted : List Nat := []
deriving Repr, DecidableEq

namespace TaskGroup

def spawn (g : TaskGroup) (name : String) : TaskGroup :=
  { g with
    spawned := g.spawned + 1
    names := g.names ++ [(g.spawned, name)]
    live := g.live ++ [g.spawned] }

/-- A task ends by itself. -/
def finish (g : TaskGroup) (task : Nat) (ending : Ending) : TaskGroup :=
  if task ∈ g.live then
    { g with live := g.live.erase task, ended := g.ended ++ [(task, ending)] }
  else g

def name? (g : TaskGroup) (task : Nat) : Option String := g.names.lookup task

/-- Looks at the task that ended first, if there is one: the failure it means, and what is left to
look at. -/
def look? (g : TaskGroup) : Option (Option ManagerError × TaskGroup) :=
  match g.ended with
  | [] => none
  | (task, ending) :: rest =>
    let name := (g.name? task).getD ""
    some (ending.failure? name,
      { g with names := g.names.filter (·.1 ≠ task), ended := rest })

/-- Whether every task has ended. -/
def isDone (g : TaskGroup) : Bool := g.live.isEmpty

/-- Cuts off the tasks that go on. -/
def abort (g : TaskGroup) : TaskGroup := { g with live := [], aborted := g.aborted ++ g.live }

end TaskGroup

end GatedManager.Manager
