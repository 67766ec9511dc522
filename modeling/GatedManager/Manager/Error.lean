import GatedManager.Api.Error
import GatedManager.Text.Quoted

/-!
# Failures of the manager
-/

namespace GatedManager.Manager

open Api (ApiError)

inductive ManagerError
  | api (error : ApiError)
  | invalidElection (reason : String)
  | invalidCache (reason : String)
  | invalidBindAddress (addr reason : String)
  | checkRegistration (probe name reason : String)
  | bind (addr reason : String)
  | server (name reason : String)
  | metrics (reason : String)
  | leaseRecord (reason : String)
  | leaderElectionLost (reason : String)
  | cacheSync (reason : String)
  | cacheRead (reason : String)
  /-- A cached object is not of the type that was asked for. -/
  | cacheParse (reason : String)
  | runnable (name reason : String)
  | runnablePanicked (name : String)
deriving Repr, DecidableEq

def apiMessage : ApiError → String
  | .refused code reason => "ApiError: " ++ reason ++ " (" ++ toString code ++ ")"
  | .undecodable => "Error deserializing response"
  | .unreachable => "client error (Connect)"

def ManagerError.message : ManagerError → String
  | api error => "Kubernetes error: " ++ apiMessage error
  | invalidElection reason => "Invalid leader election configuration: " ++ reason
  | invalidCache reason => "Invalid cache configuration: " ++ reason
  | invalidBindAddress addr reason =>
    "Invalid bind address " ++ Text.quoted addr ++ ": " ++ reason
  | checkRegistration probe name reason =>
    "Unable to add " ++ probe ++ " checker " ++ Text.quoted name ++ ": " ++ reason
  | bind addr reason => "Unable to bind " ++ addr ++ ": " ++ reason
  | server name reason => name ++ " server failed: " ++ reason
  | metrics reason => "Metrics error: " ++ reason
  | leaseRecord reason => "Invalid leader election record: " ++ reason
  | leaderElectionLost reason => "leader election lost: " ++ reason
  | cacheSync reason => "Cache failed to sync: " ++ reason
  | cacheRead reason => "Cache read failed: " ++ reason
  | cacheParse reason => "Cache read failed: " ++ reason
  | runnable name reason => "Runnable " ++ name ++ " failed: " ++ reason
  | runnablePanicked name => "Runnable " ++ name ++ " failed: task panicked"

end GatedManager.Manager
