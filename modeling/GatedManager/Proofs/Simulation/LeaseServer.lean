import GatedManager.Proofs.Api.Lease
import GatedManager.Proofs.Json.Ordered
import GatedManager.Simulation.LeaseServer

/-!
# The lease server

Every lease that the server stores names a version of its own, whatever the version its writer
named. Apart from that it is the lease that was written. A request changes the store in two cases
only: a lease is created where there was none, or it replaces the one whose version it names.
-/

namespace GatedManager.Simulation

open Api (Lease ObjectMeta)
open Election (Request)
open Json (Ascending member?)

namespace LeaseServer

/-- The members that are set when a lease is stored have their places: the names in the lease and
in its metadata ascend. -/
structure Tidy (lease : Json) : Prop where
  fields : ∀ members, lease = .obj members → Ascending members
  metadata : ∀ members, lease.get? "metadata" = some (.obj members) → Ascending members

theorem tidy_of_ordered {lease : Json} (h : lease.Ordered) : Tidy lease := by
  constructor
  · rintro members rfl
    exact h.ascending
  · intro members is_metadata
    cases lease with
    | obj fields => exact (h.member? is_metadata).ascending
    | _ => cases is_metadata

theorem get?_metadata (lease : Lease) :
    lease.toJson.get? "metadata" = some lease.metadata.toJson := by
  have distinct : ["apiVersion", "kind", "metadata", "spec"].Nodup := by decide
  exact Json.member?_ofFields distinct (by simp)

theorem tidy_toJson (lease : Lease) : Tidy lease.toJson := by
  have fields : ∃ members, lease.toJson = .obj members ∧ Ascending members :=
    Json.ascending_ofFields ["apiVersion", "kind", "metadata", "spec"] (by decide) rfl
  have metadata : ∃ members, lease.metadata.toJson = .obj members ∧ Ascending members :=
    Json.ascending_ofFields ObjectMeta.fieldNames (by decide) rfl
  obtain ⟨members, lease_eq, fields_ascend⟩ := fields
  obtain ⟨members', metadata_eq, metadata_ascend⟩ := metadata
  constructor
  · intro _ same
    rw [lease_eq] at same
    cases same
    exact fields_ascend
  · intro _ same
    rw [get?_metadata, metadata_eq] at same
    cases same
    exact metadata_ascend

variable {version : Nat} {lease : Json}

theorem get?_setMember_self {name : String} {value : Json}
    (ascending : ∀ members, lease = .obj members → Ascending members) :
    (setMember name value lease).get? name = some value := by
  cases lease with
  | obj members => exact Json.member?_insertMember_self (ascending members rfl)
  | _ => simp [setMember, Json.get?, member?]

theorem versionOf_setVersion (tidy : Tidy lease) :
    versionOf (setVersion version lease) = some (.str (toString version)) := by
  rw [versionOf, setVersion, get?_setMember_self tidy.fields, Option.bind_some,
    get?_setMember_self]
  intro members is_metadata
  refine tidy.metadata members ?_
  cases found : lease.get? "metadata" with
  | none => rw [found] at is_metadata; cases is_metadata
  | some metadata => rw [found] at is_metadata; exact congrArg some is_metadata

/-- Metadata that is absent or null gets an object with the version alone. -/
theorem read?_setMember_version {field : Option Json} {md : ObjectMeta} (version : String)
    (ascending : ∀ members, field = some (.obj members) → Ascending members)
    (h : (Json.optional ObjectMeta.read? field).map (·.getD {}) = some md) :
    (Json.optional ObjectMeta.read?
      (some (setMember "resourceVersion" (.str version) (field.getD .null)))).map (·.getD {}) =
        some { md with resourceVersion := some version } := by
  obtain ⟨md?, md_eq, rfl⟩ := Option.map_eq_some_iff.1 h
  cases field with
  | none =>
      cases md_eq
      rfl
  | some j =>
      cases j with
      | null =>
          cases md_eq
          rfl
      | obj members =>
          obtain ⟨md, read, rfl⟩ := Option.map_eq_some_iff.1 md_eq
          have set := ObjectMeta.read?_insertVersion version (ascending members rfl) read
          simp only [Option.getD_some, setMember, Json.optional, set, Option.map_some]
      | _ => cases md_eq

/-- Only the version of a lease is changed when it is stored. -/
theorem read?_setVersion {decoded : Lease} (tidy : Tidy lease)
    (h : Lease.read? lease = some decoded) :
    Lease.read? (setVersion version lease) =
      some { decoded with
        metadata := { decoded.metadata with resourceVersion := some (toString version) } } := by
  obtain ⟨members, rfl⟩ := Lease.exists_members h
  have ascending := tidy.fields members rfl
  obtain ⟨type_eq, md_eq, spec_eq⟩ := (Lease.read?_iff rfl).1 h
  have md_set := read?_setMember_version (toString version) tidy.metadata md_eq
  have fields : Json.objectFields? ["apiVersion", "kind", "metadata", "spec"]
      (setVersion version (.obj members)) = some [member? "apiVersion" members,
        member? "kind" members, some (setMember "resourceVersion"
          (.str (toString version)) ((member? "metadata" members).getD .null)),
        member? "spec" members] := by
    simp [setVersion, setMember, Json.objectFields?, Json.member?_insertMember ascending, Json.get?]
  exact (Lease.read?_iff fields).2 ⟨type_eq, md_set, spec_eq⟩

/-- The version that is read with a lease is the one that the lease names. -/
theorem resourceVersion_of_read? {decoded : Lease} {name : String}
    (h : Lease.read? lease = some decoded) (named : versionOf lease = some (.str name)) :
    decoded.metadata.resourceVersion = some name := by
  obtain ⟨members, rfl⟩ := Lease.exists_members h
  obtain ⟨-, md_eq, -⟩ := (Lease.read?_iff rfl).1 h
  obtain ⟨metadata, is_metadata, is_version⟩ := Option.bind_eq_some_iff.1 named
  replace md_eq : (Json.optional ObjectMeta.read? (some metadata)).map (·.getD {}) =
      some decoded.metadata := is_metadata ▸ md_eq
  cases metadata with
  | obj fields =>
      have written : Json.obj fields ≠ .null := nofun
      rw [Api.optional_of_ne_null written, Option.map_map] at md_eq
      obtain ⟨md, read, md_same⟩ := Option.map_eq_some_iff.1 md_eq
      obtain ⟨-, -, -, -, -, -, -, -, -, -, -, -, version_eq, -, -⟩ :=
        (ObjectMeta.read?_iff rfl).1 read
      replace version_eq : Json.optional Json.str? (some (.str name)) = some md.resourceVersion :=
        is_version ▸ version_eq
      rw [← md_same]
      exact (Option.some.inj version_eq).symm
  | _ => cases is_version

/-- A lease that was read once is stored in its written form, under its new version. -/
theorem read?_stored {decoded : Lease} (version : Nat) (h : decoded.IsRead) :
    Lease.read? (setVersion version decoded.toJson) =
      some { decoded.cut with
        metadata := { decoded.metadata.wholeSeconds with
          resourceVersion := some (toString version) } } :=
  read?_setVersion (tidy_toJson decoded) h.read?_toJson

/-- A version that the server takes for the stored one is the stored one. -/
theorem eq_of_current {named : Option String} {stored : Json} {name : String}
    (current : named.map Json.str == versionOf stored)
    (is_version : versionOf stored = some (.str name)) : named = some name := by
  rw [is_version] at current
  cases named with
  | none => cases current
  | some other => exact congrArg some (eq_of_beq (current : (other == name) = true))

/-- What a request does to the store. -/
inductive Stores (server : LeaseServer) : Request → LeaseServer → Prop
  | nothing (request : Request) : Stores server request server
  | created (lease : Lease) (vacant : server.stored = none) :
      Stores server (.create lease) (server.store (some lease.toJson))
  | replaced (lease : Lease) {stored : Json} (found : server.stored = some stored)
      (current : lease.metadata.resourceVersion.map Json.str == versionOf stored) :
      Stores server (.replace lease) (server.store (some lease.toJson))

theorem stores_respond (server : LeaseServer) (request : Request) :
    Stores server request (server.respond request).2 := by
  cases request with
  | get => cases found : server.stored <;> simpa only [respond, found] using .nothing _
  | create lease =>
      cases found : server.stored with
      | none => simpa only [respond, found] using .created lease found
      | some stored => simpa only [respond, found] using .nothing _
  | replace lease =>
      cases found : server.stored with
      | none => simpa only [respond, found] using .nothing _
      | some stored =>
          simp only [respond, found]
          split
          case isTrue current => exact .replaced lease found current
          case isFalse => exact .nothing _

/-- A lease that a client was shown is the stored one. -/
theorem stored_of_answer {server : LeaseServer} {request : Request} {decoded : Lease}
    (h : (server.respond request).1.answer request = .read (.ok (some decoded))) :
    ∃ stored, server.stored = some stored ∧ Lease.read? stored = some decoded := by
  cases request with
  | get =>
      cases found : server.stored with
      | none => simp [respond, found, Response.answer, Response.lease?] at h
      | some stored =>
          refine ⟨stored, rfl, ?_⟩
          cases read : Lease.read? stored with
          | none => simp [respond, found, Response.answer, Response.lease?, read] at h
          | some lease =>
              simpa [respond, found, Response.answer, Response.lease?, read] using h
  | create lease => simp [Response.answer] at h
  | replace lease => simp [Response.answer] at h

/-- The stored lease is shown to every client. -/
theorem answer_get {server : LeaseServer} {stored : Json} {decoded : Lease}
    (found : server.stored = some stored) (read : Lease.read? stored = some decoded) :
    (server.respond .get).1.answer .get = .read (.ok (some decoded)) := by
  simp [respond, found, Response.answer, Response.lease?, read]

/-- A write that succeeded is in the store. -/
theorem stored_of_written {server : LeaseServer} {request : Request}
    (h : (server.respond request).1.answer request = .written (.ok ())) :
    ∃ lease, (request = .create lease ∨ request = .replace lease) ∧
      (server.respond request).2 = server.store (some lease.toJson) := by
  cases request with
  | get =>
      simp only [Response.answer] at h
      split at h
      · cases h
      · split at h <;> cases h
      · cases h
  | create lease =>
      refine ⟨lease, .inl rfl, ?_⟩
      cases found : server.stored with
      | none => simp [respond, found]
      | some stored => simp [respond, found, Response.answer, Response.lease?, Except.map] at h
  | replace lease =>
      refine ⟨lease, .inr rfl, ?_⟩
      cases found : server.stored with
      | none => simp [respond, found, Response.answer, Response.lease?, Except.map] at h
      | some stored =>
          simp only [respond, found] at h ⊢
          split at h
          case isTrue current => rw [if_pos current]
          case isFalse => simp [Response.answer, Response.lease?, Except.map] at h

end LeaseServer

end GatedManager.Simulation
