import GatedManager.Time.Clock
import GatedManager.Watch.Reflector

/-!
# Informers

An informer lists a collection page by page, then watches it, and passes what it learns to its
reflector. A watch that ends is opened again. One that cannot be continued makes the informer list
again, and so does a page that is refused. After a failure the informer pauses, longer with each
failure that follows another without any news in between.
-/

namespace GatedManager.Watch

/-- A page of a list. -/
structure Page (α : Type) where
  items : List (ObjectKey × α)
  /-- The token that asks for the next page, when there is one. -/
  next : Option String

/-- What comes over an open watch. -/
inductive Notice (α : Type)
  | changed (key : ObjectKey) (object : α)
  | removed (key : ObjectKey)
  /-- A sign of life without news. -/
  | bookmark
  /-- The watch cannot be continued. -/
  | lost
  /-- An error that leaves the watch open. -/
  | failed
  /-- The watch has ended. -/
  | closed

/-- What an informer does next. -/
inductive Stage
  | idle
  /-- It asks for a page of the list, the first one when there is no token. -/
  | listing (token : Option String)
  /-- It asks for the watch. -/
  | opening
  | watching
deriving Repr, DecidableEq

inductive Input (α : Type)
  /-- The informer may begin. -/
  | go
  | page (p : Page α)
  | refused
  | opened
  | notice (n : Notice α)

/-- What an input leads to. -/
structure Reaction (α : Type) where
  stage : Stage
  events : List (Event α) := []
  failed : Bool := false

section

variable {α : Type}

def Page.events (p : Page α) : List (Event α) := p.items.map fun (key, object) => .listed key object

def Stage.react (stage : Stage) (input : Input α) : Reaction α :=
  match stage, input with
  | .idle, .go => { stage := .listing none, events := [.restart] }
  | .listing _, .page p =>
    match p.next with
    | some token => { stage := .listing (some token), events := p.events }
    | none => { stage := .opening, events := p.events ++ [.complete] }
  | .listing _, .refused => { stage := .idle, failed := true }
  | .opening, .opened => { stage := .watching }
  | .opening, .refused => { stage := .opening, failed := true }
  | .watching, .notice (.changed key object) =>
    { stage := .watching, events := [.applied key object] }
  | .watching, .notice (.removed key) => { stage := .watching, events := [.deleted key] }
  | .watching, .notice .bookmark => { stage := .watching }
  | .watching, .notice .lost => { stage := .idle, failed := true }
  | .watching, .notice .failed => { stage := .watching, failed := true }
  | .watching, .notice .closed => { stage := .opening }
  | stage, _ => { stage := stage }

end

/-- The pause after a single failure. -/
def shortestPause : Duration := .ofMillis 800

def longestPause : Duration := .ofSeconds 30

/-- The pause after a failure that follows `failures` others: each is twice as long as the one
before, up to the longest. -/
def pauseAfter (failures : Nat) : Duration :=
  ⟨min longestPause.nanos (shortestPause.nanos * Nat.pow 2 failures)⟩

structure Informer (α : Type) where
  stage : Stage := .idle
  reflector : Reflector α := {}
  /-- Failures since the last news. -/
  failures : Nat := 0
  pausedUntil : Option Instant := none

namespace Informer

variable {α : Type}

/-- An input is taken. -/
def take (i : Informer α) (input : Input α) (now : Instant) : Informer α :=
  let r := i.stage.react input
  let failures := if r.events.isEmpty then i.failures else 0
  { stage := r.stage
    reflector := i.reflector.run r.events
    failures := if r.failed then failures + 1 else failures
    pausedUntil := if r.failed then some (Instant.timer now (pauseAfter failures)) else none }

/-- Whether the informer pauses. -/
def isPaused (i : Informer α) (now : Instant) : Bool := i.pausedUntil.any (now < ·)

end Informer

end GatedManager.Watch
