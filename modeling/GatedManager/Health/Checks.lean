import GatedManager.Http.Message

/-!
# Health checks

A probe is answered by a set of named checks. The set as a whole passes when every check that is
not excluded passes; each check can also be asked for on its own. A set without checks answers
like one with a single check `ping` that passes.
-/

namespace GatedManager.Health

open Http (Response)

inductive Probe
  | healthz
  | readyz
deriving Repr, DecidableEq

def Probe.name : Probe → String
  | healthz => "healthz"
  | readyz => "readyz"

/-- A named check with what it says at present: nothing, or why it fails. -/
structure Check where
  name : String
  failure : Option String
deriving Repr, DecidableEq

/-- The checks of a probe, in the order of their names. -/
structure CheckSet where
  probe : Probe
  checks : List Check := []
deriving Repr, DecidableEq

/-- Why a check cannot be added. -/
inductive AddFault
  | emptyName
  | slashInName
  | duplicate
deriving Repr, DecidableEq

def AddFault.reason : AddFault → String
  | emptyName => "checker name must not be empty"
  | slashInName => "checker name must not contain '/'"
  | duplicate => "a checker with this name already exists"

/-- The check that a set without checks answers with. -/
def ping : Check := ⟨"ping", none⟩

namespace CheckSet

def names (set : CheckSet) : List String := set.checks.map (·.name)

def find? (set : CheckSet) (name : String) : Option Check := set.checks.find? (·.name = name)

/-- A check in its place by name. -/
def insert (check : Check) : List Check → List Check
  | [] => [check]
  | first :: rest =>
    if check.name < first.name then check :: first :: rest else first :: insert check rest

def add (set : CheckSet) (check : Check) : Except AddFault CheckSet :=
  if check.name = "" then .error .emptyName
  else if check.name.toList.contains '/' then .error .slashInName
  else if (set.find? check.name).isSome then .error .duplicate
  else .ok { set with checks := insert check set.checks }

/-- The set after the check called `name` has changed what it says. -/
def update (set : CheckSet) (name : String) (failure : Option String) : CheckSet :=
  { set with checks := set.checks.map fun check =>
      if check.name = name then { check with failure := failure } else check }

/-- The checks that the set as a whole consists of. -/
def effective (set : CheckSet) : List Check :=
  if set.checks.isEmpty then [ping] else set.checks

end CheckSet

/-- What a query asks of a whole set. -/
structure Query where
  verbose : Bool := false
  /-- In the order of the names, without repetitions. -/
  excluded : List String := []
deriving Repr, DecidableEq

/-- A name in its place, once. -/
def insertName (name : String) : List String → List String
  | [] => [name]
  | first :: rest =>
    if name = first then first :: rest
    else if name < first then name :: first :: rest
    else first :: insertName name rest

namespace Query

/-- Name and value of a parameter. -/
def parameter (pair : List Char) : List Char × List Char :=
  (Text.splitFirst '=' pair).getD (pair, [])

/-- `verbose` is on unless its value is `false` or `0`, the last one counting; each `exclude` with
a value excludes that name; values stand as they are written. -/
def take (query : Query) (pair : List Char) : Query :=
  let (key, value) := parameter pair
  if key = "verbose".toList then
    { query with verbose := value ≠ "false".toList ∧ value ≠ "0".toList }
  else if key = "exclude".toList ∧ !value.isEmpty then
    { query with excluded := insertName (String.ofList value) query.excluded }
  else query

def read (query : Option (List Char)) : Query :=
  (Text.splitOn '&' (query.getD [])).foldl take {}

end Query

namespace CheckSet

/-- The line of a check in the report of the whole set. -/
def reportLine (query : Query) (check : Check) : String :=
  if query.excluded.contains check.name then "[+]" ++ check.name ++ " excluded: ok\n"
  else match check.failure with
    | none => "[+]" ++ check.name ++ " ok\n"
    | some _ => "[-]" ++ check.name ++ " failed: reason withheld\n"

/-- The warning about an excluded name that is no check. -/
def warningLine (name : String) : String :=
  "warn: some health checks cannot be excluded: no matches for \"" ++ name ++ "\"\n"

/-- The excluded names that are no checks. -/
def unmatched (set : CheckSet) (query : Query) : List String :=
  query.excluded.filter fun name => !(set.effective.any (·.name = name))

/-- One line for each check, then one warning for each name that is none. -/
def report (set : CheckSet) (query : Query) : String :=
  String.join (set.effective.map (reportLine query)) ++
    String.join ((set.unmatched query).map warningLine)

/-- Whether a check that is not excluded fails. -/
def fails (set : CheckSet) (query : Query) : Bool :=
  set.effective.any fun check => !query.excluded.contains check.name && check.failure.isSome

/-- The answer for the set as a whole. -/
def answerAll (set : CheckSet) (query : Query) : Response :=
  if set.fails query then
    .text 500 (set.report query ++ set.probe.name ++ " check failed\n")
  else if query.verbose then
    .text 200 (set.report query ++ set.probe.name ++ " check passed\n")
  else .text 200 "ok"

def answerCheck (check : Check) : Response :=
  match check.failure with
  | none => .text 200 "ok"
  | some reason => .text 500 ("internal server error: " ++ reason)

/-- The answer for one check. -/
def answerOne (set : CheckSet) (name : String) : Response :=
  match set.find? name with
  | some check => answerCheck check
  | none =>
    if name = ping.name then answerCheck ping
    else .text 404 ("no such check: " ++ name)

end CheckSet

end GatedManager.Health
