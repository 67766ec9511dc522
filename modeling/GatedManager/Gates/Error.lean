import GatedManager.Text.Quoted

/-!
# Failures to learn the feature gates
-/

namespace GatedManager.Gates

inductive GateError
  /-- No client for the API could be made. -/
  | client (reason : String)
  | timedOut
  | cancelled
  | notObserved
  /-- The cluster lists no gates for this version. -/
  | missingVersion (version : String)
deriving Repr, DecidableEq

def GateError.message : GateError → String
  | client reason => "failed to create config client: " ++ reason
  | timedOut => "timed out waiting for feature gates to be initialized"
  | cancelled => "cancelled while waiting for feature gates to be initialized"
  | notObserved => "feature gates have not been observed yet"
  | missingVersion version =>
    "missing desired version " ++ Text.quoted version ++
      " in featuregates.config.openshift.io/cluster"

end GatedManager.Gates
