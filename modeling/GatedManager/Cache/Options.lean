import GatedManager.Duration
import GatedManager.Watch.Collection

/-!
# Settings of the cache

The cache keeps objects of the namespaces it is given, each with its own restrictions, and asks
everyone to look again once in every sync period.
-/

namespace GatedManager.Cache

open Watch (Selection)

def defaultSyncPeriod : Duration := .ofSeconds (10 * 60 * 60)

structure Options where
  /-- In the order of the names. -/
  namespaces : List (String × Selection) := []
  syncPeriod : Duration := defaultSyncPeriod
deriving Repr, DecidableEq

/-- What is wrong with the settings. -/
inductive OptionsFault
  | noNamespace
  | emptyName
  | noSyncPeriod
deriving Repr, DecidableEq

def OptionsFault.reason : OptionsFault → String
  | noNamespace => "at least one namespace must be configured"
  | emptyName => "namespace names must not be empty"
  | noSyncPeriod => "sync period must be greater than zero"

namespace Options

/-- One namespace without restrictions. -/
def single (name : String) (syncPeriod : Duration) : Options := ⟨[(name, {})], syncPeriod⟩

def names (o : Options) : List String := o.namespaces.map Prod.fst

def validate (o : Options) : Except OptionsFault Unit :=
  if o.namespaces.isEmpty then .error .noNamespace
  else if o.names.contains "" then .error .emptyName
  else if o.syncPeriod.nanos = 0 then .error .noSyncPeriod
  else .ok ()

end Options

end GatedManager.Cache
