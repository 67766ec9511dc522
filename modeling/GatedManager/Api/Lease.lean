import GatedManager.Api.Resource

/-!
# Leases

A `Lease` records who holds a right, since when, and when the holder last renewed it. It is read
from an object only, and its type, where it is given, must be that of a lease. Times are written
with six decimals.
-/

namespace GatedManager.Api

open Json (ofFields objectFields? optional defaulted str? int32?)

structure LeaseSpec where
  acquireTime : Option Timestamp
  holderIdentity : Option String
  leaseDurationSeconds : Option Int
  leaseTransitions : Option Int
  renewTime : Option Timestamp
deriving Repr, DecidableEq

namespace LeaseSpec

def fieldNames : List String :=
  ["acquireTime", "holderIdentity", "leaseDurationSeconds", "leaseTransitions", "renewTime"]

def read? (j : Json) : Option LeaseSpec := do
  match ← objectFields? fieldNames j with
  | [acquireTime, holderIdentity, leaseDurationSeconds, leaseTransitions, renewTime] =>
    return ⟨← optional time? acquireTime, ← optional str? holderIdentity,
      ← optional int32? leaseDurationSeconds, ← optional int32? leaseTransitions,
      ← optional time? renewTime⟩
  | _ => none

def toJson (spec : LeaseSpec) : Json :=
  ofFields [("acquireTime", spec.acquireTime.map (ofTime .micros)),
    ("holderIdentity", spec.holderIdentity.map .str),
    ("leaseDurationSeconds", spec.leaseDurationSeconds.map .int),
    ("leaseTransitions", spec.leaseTransitions.map .int),
    ("renewTime", spec.renewTime.map (ofTime .micros))]

end LeaseSpec

structure Lease where
  metadata : ObjectMeta
  spec : Option LeaseSpec
deriving Inhabited

namespace Lease

def type : TypeName := ⟨"coordination.k8s.io/v1", "Lease"⟩

def read? (j : Json) : Option Lease := do
  match ← objectFields? ["apiVersion", "kind", "metadata", "spec"] j with
  | [apiVersion, kind, metadata, spec] =>
    type.check? apiVersion kind
    return ⟨(← optional ObjectMeta.read? metadata).getD {}, ← optional LeaseSpec.read? spec⟩
  | _ => none

def toJson (lease : Lease) : Json :=
  ofFields [("apiVersion", some (.str type.apiVersion)),
    ("kind", some (.str type.kind)),
    ("metadata", some lease.metadata.toJson),
    ("spec", lease.spec.map LeaseSpec.toJson)]

end Lease

end GatedManager.Api
