/-!
# Failures of API requests
-/

namespace GatedManager.Api

/-- Why a request to the API failed. -/
inductive ApiError
  /-- The server answered with a status. -/
  | refused (code : Int) (reason : String)
  /-- The answer is not of the expected type. -/
  | undecodable
  /-- There was no answer. -/
  | unreachable
deriving Repr, DecidableEq

end GatedManager.Api
