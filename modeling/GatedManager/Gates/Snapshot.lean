import GatedManager.Api.FeatureGate
import GatedManager.Text.NameSet

/-!
# Snapshots of feature gates

A snapshot is the set of gates that hold for one release version, taken from one look at the
cluster. Two snapshots have the same gates when the enabled and the disabled ones agree; the
version may differ.
-/

namespace GatedManager.Gates

open Text (NameSet)

structure Snapshot where
  version : String
  enabled : NameSet
  disabled : NameSet
deriving Repr, DecidableEq

namespace Snapshot

def ofDetails (details : Api.GateDetails) : Snapshot :=
  ⟨details.version, .ofList details.enabled, .ofList details.disabled⟩

def isEnabled (s : Snapshot) (gate : String) : Bool := s.enabled.contains gate

def isKnown (s : Snapshot) (gate : String) : Bool :=
  s.enabled.contains gate || s.disabled.contains gate

/-- All gates, enabled or disabled. -/
def known (s : Snapshot) : NameSet := s.enabled.union s.disabled

def sameGates (s t : Snapshot) : Bool := s.enabled == t.enabled && s.disabled == t.disabled

def render (s : Snapshot) : String :=
  "version=" ++ s.version ++ " enabled=" ++ s.enabled.render ++ " disabled=" ++ s.disabled.render

end Snapshot

/-- A change from one snapshot to the next. -/
structure Change where
  previous : Snapshot
  new : Snapshot
deriving Repr, DecidableEq

namespace Change

def turnedOn (c : Change) : NameSet := c.new.enabled.diff c.previous.enabled

def turnedOff (c : Change) : NameSet := c.previous.enabled.diff c.new.enabled

end Change

/-- The gate that this process is about. -/
def migrationGate : String := "MachineAPIMigration"

end GatedManager.Gates
