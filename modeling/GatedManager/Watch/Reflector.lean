import GatedManager.Watch.Store

/-!
# Reflectors

A reflector keeps a copy of a collection. While the collection is listed its objects are set
aside; the copy changes at once when the list is complete, and is ready from then on. Afterwards
it follows the changes one by one.
-/

namespace GatedManager.Watch

inductive Event (α : Type)
  /-- A list begins. -/
  | restart
  | listed (key : ObjectKey) (object : α)
  /-- The list is complete. -/
  | complete
  | applied (key : ObjectKey) (object : α)
  | deleted (key : ObjectKey)

structure Reflector (α : Type) where
  /-- What has been listed so far. -/
  incoming : Store α := .empty
  store : Store α := .empty
  /-- Whether a list has been completed. -/
  ready : Bool := false

namespace Reflector

variable {α : Type}

def step (r : Reflector α) : Event α → Reflector α
  | .restart => { r with incoming := .empty }
  | .listed key object => { r with incoming := r.incoming.put key object }
  | .complete => { incoming := .empty, store := r.incoming, ready := true }
  | .applied key object => { r with store := r.store.put key object }
  | .deleted key => { r with store := r.store.erase key }

def run (r : Reflector α) (events : List (Event α)) : Reflector α := events.foldl step r

end Reflector

end GatedManager.Watch
