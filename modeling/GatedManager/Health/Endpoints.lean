import GatedManager.Health.Checks

/-!
# Probe endpoints

Each probe is served as a whole under its name, and each of its checks one segment below.
-/

namespace GatedManager.Health

open Http (Request Response Target)

/-- The two sets that are served. -/
structure Probes where
  healthz : CheckSet := ⟨.healthz, []⟩
  readyz : CheckSet := ⟨.readyz, []⟩
deriving Repr, DecidableEq

namespace Probes

def get (probes : Probes) : Probe → CheckSet
  | .healthz => probes.healthz
  | .readyz => probes.readyz

def set (probes : Probes) (checks : CheckSet) : Probe → Probes
  | .healthz => { probes with healthz := checks }
  | .readyz => { probes with readyz := checks }

/-- The set that a path segment names. -/
def find? (probes : Probes) (segment : List Char) : Option CheckSet :=
  if segment = Probe.healthz.name.toList then some probes.healthz
  else if segment = Probe.readyz.name.toList then some probes.readyz
  else none

/-- The answer for one check, whose name comes percent-encoded. -/
def answerSegment (checks : CheckSet) (segment : List Char) : Response :=
  match Http.decodeSegment? segment with
  | some name => checks.answerOne name
  | none => .text 400 "Invalid URL: Invalid UTF-8 in `name`"

/-- The answer to a `GET` of a target, if there is an endpoint. -/
def answer? (probes : Probes) (target : Target) : Option Response :=
  match Http.segments target.path with
  | some [probe] =>
    (probes.find? probe).map fun checks => checks.answerAll (Query.read target.query)
  | some [probe, segment] =>
    if segment.isEmpty then none
    else (probes.find? probe).map fun checks => answerSegment checks segment
  | _ => none

def serve (probes : Probes) (request : Request) : Response :=
  match probes.answer? (Target.read request.target.toList) with
  | some response => Http.readOnly request.method response
  | none => .notFound

end Probes

end GatedManager.Health
