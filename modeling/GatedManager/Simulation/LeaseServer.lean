import GatedManager.Election.Elector
import GatedManager.Json.Reader

/-!
# A simulated lease server

The server keeps at most one lease. A lease is created only where there is none, and replaced only
by a writer that names the version it read; every stored lease gets a fresh version. A script may
add faults: a request that matches one is delayed, finds the lease changed, or gets another
answer.
-/

namespace GatedManager.Simulation

open Api (ApiError Lease)
open Election (Request Answer)

inductive Method
  | get
  | put
  | post
deriving Repr, DecidableEq

def Method.ofRequest : Request → Method
  | .get => .get
  | .create _ => .post
  | .replace _ => .put

/-- The body of a write. -/
def bodyOf : Request → Option Json
  | .get => none
  | .create lease => some lease.toJson
  | .replace lease => some lease.toJson

/-- What the server answers. -/
inductive Response
  | object (code : Int) (j : Json)
  | status (code : Int) (reason : String)
  | text (code : Int) (s : String)

def Response.code : Response → Int
  | object code _ => code
  | status code _ => code
  | text code _ => code

/-- The answer that a fault makes the server give instead of its own. -/
inductive Distortion
  | text (s : String)
  | status (code : Int) (reason : String)

structure Fault where
  /-- The requests it applies to, all of them when there is none. -/
  method : Option Method
  /-- How many requests it still applies to, any number when there is none. -/
  uses : Option Nat
  delay : Duration
  /-- The lease that takes the place of the stored one. -/
  lease : Option (Option Json)
  distortion : Option Distortion

def Fault.applies (fault : Fault) (method : Method) : Bool :=
  (fault.method == none || fault.method == some method) && fault.uses != some 0

def Fault.used (fault : Fault) : Fault := { fault with uses := fault.uses.map (· - 1) }

structure LeaseServer where
  stored : Option Json := none
  version : Nat := 0
  faults : List Fault := []

namespace LeaseServer

/-- A member of an object set to a value; what is not an object becomes one. -/
def setMember (name : String) (value : Json) : Json → Json
  | .obj members => .obj (Json.insertMember name value members)
  | _ => .obj [(name, value)]

def setVersion (version : Nat) (lease : Json) : Json :=
  let metadata := (lease.get? "metadata").getD .null
  setMember "metadata" (setMember "resourceVersion" (.str (toString version)) metadata) lease

/-- The version that a lease names. -/
def versionOf (lease : Json) : Option Json :=
  (lease.get? "metadata").bind (·.get? "resourceVersion")

/-- Stores a lease under a fresh version, or none. -/
def store (server : LeaseServer) (lease : Option Json) : LeaseServer :=
  let version := server.version + 1
  { server with stored := lease.map (setVersion version), version := version }

/-- The first fault that applies, one use of which is taken. -/
def takeFault (method : Method) : List Fault → Option Fault × List Fault
  | [] => (none, [])
  | fault :: rest =>
    if fault.applies method then (some fault, fault.used :: rest)
    else
      let (found, rest) := takeFault method rest
      (found, fault :: rest)

/-- A request arrives: the fault that will apply to it is settled. -/
def arrive (server : LeaseServer) (request : Request) : Option Fault × LeaseServer :=
  let (fault, faults) := takeFault (Method.ofRequest request) server.faults
  (fault, { server with faults := faults })

/-- The server's own answer. -/
def respond (server : LeaseServer) (request : Request) : Response × LeaseServer :=
  match request, server.stored with
  | .get, some lease => (.object 200 lease, server)
  | .get, none => (.status 404 "NotFound", server)
  | .create _, some _ => (.status 409 "AlreadyExists", server)
  | .create lease, none =>
    let server := server.store (some lease.toJson)
    (.object 201 (server.stored.getD .null), server)
  | .replace _, none => (.status 404 "NotFound", server)
  | .replace lease, some stored =>
    if lease.metadata.resourceVersion.map Json.str == versionOf stored then
      let server := server.store (some lease.toJson)
      (.object 200 (server.stored.getD .null), server)
    else (.status 409 "Conflict", server)

/-- A request is served under the fault that was settled when it arrived. -/
def serve (server : LeaseServer) (request : Request) (fault : Option Fault) :
    Response × LeaseServer :=
  match fault with
  | none => server.respond request
  | some fault =>
    let server := match fault.lease with
      | some lease => server.store lease
      | none => server
    match fault.distortion with
    | some (.text s) => (.text 200 s, server)
    | some (.status code reason) => (.status code reason, server)
    | none => server.respond request

end LeaseServer

/-- The lease in a response. -/
def Response.lease? : Response → Except ApiError Lease
  | .object _ j => (Lease.read? j).elim (.error .undecodable) .ok
  | .text _ s => ((Json.read? s).bind Lease.read?).elim (.error .undecodable) .ok
  | .status code reason =>
    if 400 ≤ code ∧ code < 600 then .error (.refused code reason) else .error .undecodable

/-- How the client reads the response to a request. A lease that was not found is absent. -/
def Response.answer (request : Request) (response : Response) : Answer :=
  match request with
  | .get =>
    match response.lease? with
    | .ok lease => .read (.ok (some lease))
    | .error (.refused code reason) =>
      if reason = "NotFound" then .read (.ok none) else .read (.error (.refused code reason))
    | .error error => .read (.error error)
  | _ => .written (response.lease?.map fun _ => ())

end GatedManager.Simulation
