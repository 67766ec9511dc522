import GatedManager.Http.Message

/-!
# Metrics

Two families of metrics: a gauge per lease that tells whether this replica leads, and a counter of
resyncs per namespace. The text form lists families by name and series by label; a family without
series does not appear.
-/

namespace GatedManager

open Http (Request Response Target)

/-- The series of a family by label, in the order of the labels. -/
abbrev Series := List (String × Nat)

/-- The series with the value under a label changed, from zero where there is none. -/
def Series.modify (label : String) (f : Nat → Nat) : Series → Series
  | [] => [(label, f 0)]
  | (l, v) :: rest =>
    if label = l then (l, f v) :: rest
    else if label < l then (label, f 0) :: (l, v) :: rest
    else (l, v) :: Series.modify label f rest

def Series.get (label : String) (series : Series) : Nat := (series.lookup label).getD 0

structure Metrics where
  leader : Series := []
  resyncs : Series := []
deriving Repr, DecidableEq

namespace Metrics

/-- Sets the gauge of a lease. -/
def setLeader (m : Metrics) (lease : String) (leading : Bool) : Metrics :=
  { m with leader := m.leader.modify lease fun _ => if leading then 1 else 0 }

/-- Counts a resync of a namespace. -/
def recordResync (m : Metrics) (namespaceName : String) : Metrics :=
  { m with resyncs := m.resyncs.modify namespaceName (· + 1) }

/-- The fixed part of a family. -/
structure Family where
  name : String
  help : String
  type : String
  label : String
deriving Repr, DecidableEq

def leaderFamily : Family where
  name := "leader_election_master_status"
  help := "Gauge of if the reporting system is master of the relevant lease, " ++
    "0 indicates backup, 1 indicates master."
  type := "gauge"
  label := "name"

def resyncFamily : Family where
  name := "cache_resyncs_total"
  help := "Number of periodic cache resyncs."
  type := "counter"
  label := "namespace"

/-- The families that have series, by name. -/
def families (m : Metrics) : List (Family × Series) :=
  [(resyncFamily, m.resyncs), (leaderFamily, m.leader)].filter fun (_, series) => !series.isEmpty

/-- The escape of a character in a label value. -/
def escapeChar (c : Char) : List Char :=
  if c = '\\' then ['\\', '\\'] else if c = '"' then ['\\', '"']
  else if c = '\n' then ['\\', 'n'] else [c]

def escape (value : String) : String := String.ofList (value.toList.flatMap escapeChar)

def Family.line (family : Family) (label : String) (value : Nat) : String :=
  family.name ++ "\x7b" ++ family.label ++ "=\"" ++ escape label ++ "\"\x7d " ++ toString value

def Family.render (family : Family) (series : Series) : String :=
  "# HELP " ++ family.name ++ " " ++ family.help ++ "\n" ++
    "# TYPE " ++ family.name ++ " " ++ family.type ++ "\n" ++
    String.join (series.map fun (label, value) => family.line label value ++ "\n")

def render (m : Metrics) : String :=
  String.join (m.families.map fun (family, series) => family.render series)

/-- The lines of the leader gauge. -/
def leaderLines (m : Metrics) : List String :=
  m.leader.map fun (label, value) => leaderFamily.line label value

/-- The endpoint `/metrics`. -/
def serve (m : Metrics) (request : Request) : Response :=
  if (Target.read request.target.toList).path = "/metrics".toList then
    Http.readOnly request.method
      { status := 200, contentType := some "text/plain; version=0.0.4", body := m.render }
  else .notFound

end Metrics

end GatedManager
