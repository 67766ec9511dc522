import GatedManager.Election.Campaign
import GatedManager.Simulation.LeaseServer

/-!
# Simulated elections

One elector runs against a simulated lease server under a clock that moves only when everything
waits. The run is given step by step and reports, for each step, its result, how long it took, the
requests that were served and the lease that is stored. Each attempt reads its own time from the
wall clock; reports call these times `t1`, `t2`, … in order of appearance.
-/

namespace GatedManager.Simulation

open Election

/-- A served request. -/
structure Served where
  method : Method
  code : Int
  spec : Option Json

structure ElectionWorld where
  now : Instant
  server : LeaseServer
  elector : Elector
  /-- How often the wall clock has been read. -/
  readings : Nat
  /-- The requests served in the current step, the latest first. -/
  served : List Served

/-- The second of the first reading of the wall clock. -/
def wallStart : Int := 200000000000

/-- A reading of the wall clock: a microsecond of its own, far from the times of any script, and
half a microsecond more. -/
def wallClock (reading : Nat) : Timestamp :=
  ⟨wallStart + (reading / 1000000 : Nat), reading % 1000000 * 1000 + 500⟩

/-- A request on its way to the server. -/
structure InFlight where
  request : Request
  fault : Option Fault
  arrival : Instant

namespace ElectionWorld

def send (w : ElectionWorld) (request : Request) : InFlight × ElectionWorld :=
  let (fault, server) := w.server.arrive request
  let delay := match fault with
    | some fault => fault.delay.nanos
    | none => 0
  (⟨request, fault, w.now + delay⟩, { w with server := server })

def receive (w : ElectionWorld) (flight : InFlight) : Answer × ElectionWorld :=
  let (response, server) := w.server.serve flight.request flight.fault
  let spec := (bodyOf flight.request).map fun body => (body.get? "spec").getD .null
  let entry : Served := ⟨Method.ofRequest flight.request, response.code, spec⟩
  (response.answer flight.request,
    { w with now := max w.now flight.arrival, server := server, served := entry :: w.served })

/-- One attempt alone, from its first request to its result. -/
def attempt : Nat → ElectionWorld → Attempt →
    Except Crash (ElectionWorld × Except AttemptError Bool)
  | 0, w, _ => .ok (w, .ok false)
  | fuel + 1, w, a =>
    let (flight, w) := w.send a.request
    let (answer, w) := w.receive flight
    match w.elector.advance a answer w.now with
    | .error crash => .error crash
    | .ok (elector, .waiting a) => attempt fuel { w with elector := elector } a
    | .ok (elector, .finished result) => .ok ({ w with elector := elector }, result)

/-- An attempt makes at most two requests. -/
def attemptFuel : Nat := 3

/-- What happens next in a campaign. -/
inductive Next
  | answer (flight : InFlight)
  | cancel (at_ : Instant)
  | timer (at_ : Instant)

def Next.instant : Next → Instant
  | answer flight => flight.arrival
  | cancel at_ => at_
  | timer at_ => at_

/-- The earliest event; of several at one instant an answer comes first, then the cancellation. -/
def next? (c : Campaign) (flight : Option InFlight) (cancelAt : Instant) : Option Next :=
  let events := flight.toList.map Next.answer ++
    (if c.cancelled then [] else [.cancel cancelAt]) ++ c.timer?.toList.map Next.timer
  events.foldl
    (fun best event => match best with
      | none => some event
      | some earlier => if event.instant < earlier.instant then some event else some earlier)
    none

/-- Runs a campaign to its end. -/
def campaign : Nat → ElectionWorld → Campaign → Option InFlight → Instant →
    Except Crash (ElectionWorld × Campaign)
  | 0, w, c, _, _ => .ok (w, c)
  | fuel + 1, w, c, flight, cancelAt =>
    match c.outcome? with
    | some _ => .ok ({ w with elector := c.elector }, c)
    | none =>
      match flight, c.attempt? with
      | none, some a =>
        let (flight, w) := w.send a.request
        campaign fuel w c (some flight) cancelAt
      | flight, _ =>
        match next? c flight cancelAt with
        | none => .ok (w, c)
        | some (.answer flight) =>
          let (answer, w) := w.receive flight
          match c.answer answer w.now with
          | .error crash => .error crash
          | .ok c => campaign fuel w c none cancelAt
        | some (.cancel at_) => campaign fuel { w with now := max w.now at_ } c.cancel flight cancelAt
        | some (.timer at_) =>
          let c := c.wake at_ (wallClock w.readings)
          campaign fuel { w with now := at_, readings := w.readings + 1 } c none cancelAt

/-- A bound on the events of one campaign. -/
def campaignFuel : Nat := 1000000

end ElectionWorld

/-- A step of a simulated election. -/
inductive ElectionStep
  /-- Tell the identity and the lease. -/
  | info
  /-- Make one attempt. -/
  | attempt
  | acquire (cancelAfter : Duration)
  | hold (cancelAfter : Duration)
  | advance (d : Duration)
  /-- Another writer stores a lease, or deletes it. -/
  | lease (lease : Option Json)
  | fault (fault : Fault)
  | nothing

inductive ElectionResult
  | info (identity leaseKey : String)
  | attempted (result : Except AttemptError Bool)
  | acquired (won : Bool)
  | stopped
  | lost (reason : String)
  | nothing

structure ElectionReport where
  result : ElectionResult
  elapsed : Duration
  served : List Served
  stored : Option Json

def campaignResult (c : Campaign) : ElectionResult :=
  match c.outcome? with
  | some .acquired => .acquired true
  | some .abandoned => .acquired false
  | some .released => .stopped
  | some .lost => .lost (lossReason c.elector.config)
  | none => .nothing

namespace ElectionWorld

def runCampaign (w : ElectionWorld) (c : Campaign) (cancelAt : Instant) :
    Except Crash (ElectionWorld × ElectionResult) :=
  (campaign campaignFuel w c none cancelAt).map fun (w, c) => (w, campaignResult c)

def step (w : ElectionWorld) : ElectionStep → Except Crash (ElectionWorld × ElectionResult)
  | .info => .ok (w, .info w.elector.identity w.elector.config.leaseKey)
  | .attempt =>
    let a := Attempt.reading (wallClock w.readings)
    (attempt attemptFuel { w with readings := w.readings + 1 } a).map fun (w, result) =>
      (w, .attempted result)
  | .acquire cancelAfter =>
    let c := Campaign.acquire w.elector (cancelAfter.nanos = 0) (wallClock w.readings)
    { w with readings := w.readings + 1 }.runCampaign c (w.now + cancelAfter.nanos)
  | .hold cancelAfter =>
    w.runCampaign (Campaign.hold w.elector (cancelAfter.nanos = 0) w.now)
      (w.now + cancelAfter.nanos)
  | .advance d => .ok ({ w with now := w.now + d.nanos }, .nothing)
  | .lease lease => .ok ({ w with server := w.server.store lease }, .nothing)
  | .fault fault =>
    .ok ({ w with server := { w.server with faults := w.server.faults ++ [fault] } }, .nothing)
  | .nothing => .ok (w, .nothing)

/-- The reports of a list of steps. -/
def steps (w : ElectionWorld) : List ElectionStep → Except Crash (List ElectionReport)
  | [] => .ok []
  | s :: rest => do
    let (next, result) ← { w with served := [] }.step s
    let report : ElectionReport :=
      { result := result
        elapsed := ⟨next.now - w.now⟩
        served := next.served.reverse
        stored := next.server.stored.map fun lease => (lease.get? "spec").getD .null }
    return report :: (← next.steps rest)

end ElectionWorld

/-! ### Names for the times that were read off the clock -/

/-- The written times that have a name so far, in order of appearance. -/
abbrev TimeNames := List String

/-- Whether a written time was read off the clock. -/
def isReading (text : String) : Bool := (Timestamp.read? text).any (wallStart ≤ ·.seconds)

/-- A written time under its name, if it was read off the clock. -/
def nameTime (names : TimeNames) (text : String) : String × TimeNames :=
  if isReading text then
    let names := if names.contains text then names else names ++ [text]
    ("t" ++ toString (names.idxOf text + 1), names)
  else (text, names)

/-- The spec of a lease with its times under their names. -/
def nameTimes (names : TimeNames) (spec : Json) : Json × TimeNames :=
  ["acquireTime", "renewTime"].foldl
    (fun (spec, names) field => match spec.get? field with
      | some (.str text) =>
        let (text, names) := nameTime names text
        (LeaseServer.setMember field (.str text) spec, names)
      | _ => (spec, names))
    (spec, names)

def nameSpec (names : TimeNames) : Option Json → Option Json × TimeNames
  | none => (none, names)
  | some spec =>
    let (spec, names) := nameTimes names spec
    (some spec, names)

def nameServed (names : TimeNames) : List Served → List Served × TimeNames
  | [] => ([], names)
  | entry :: rest =>
    let (spec, names) := nameSpec names entry.spec
    let (rest, names) := nameServed names rest
    ({ entry with spec := spec } :: rest, names)

/-- The reports with all times under their names. -/
def nameReports (names : TimeNames) : List ElectionReport → List ElectionReport
  | [] => []
  | report :: rest =>
    let (served, names) := nameServed names report.served
    let (stored, names) := nameSpec names report.stored
    { report with served := served, stored := stored } :: nameReports names rest

/-- The reports of an election that starts with no lease. -/
def runElection (identity : String) (config : Config) (steps : List ElectionStep) :
    Except Crash (List ElectionReport) :=
  (ElectionWorld.steps ⟨0, {}, { identity := identity, config := config }, 0, []⟩ steps).map
    (nameReports [])

end GatedManager.Simulation
