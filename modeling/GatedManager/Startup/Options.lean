import GatedManager.CommandLine.Settings
import GatedManager.Manager.Options

/-!
# The manager of this process

The options of the manager that follow from the settings.
-/

namespace GatedManager.Startup

/-- The cache asks everyone to look again after ten minutes. -/
def cacheSyncPeriod : Duration := .ofSeconds (10 * 60)

/-- The cache holds the managed namespace alone. -/
def managerOptions (s : CommandLine.Settings) (scheme : Scheme) : Manager.Options where
  scheme := scheme
  cache := .single s.namespaceName cacheSyncPeriod
  election := s.election
  healthAddr := s.healthAddr
  metricsAddr := s.metricsBindAddr

end GatedManager.Startup
