import GatedManager.Api.Lease
import GatedManager.Proofs.Api.Metadata

/-!
# Leases read back

A lease that was read is written with its times cut: those of the metadata to whole seconds, those
of the spec to microseconds. Nothing else of it is lost.
-/

namespace GatedManager.Api

open Json (objectFields? optional str? int32?)

namespace LeaseSpec

theorem read?_iff {j : Json} {spec : LeaseSpec}
    {acquire holder duration transitions renew : Option Json}
    (fields : objectFields? fieldNames j = some [acquire, holder, duration, transitions, renew]) :
    read? j = some spec ↔
      optional time? acquire = some spec.acquireTime ∧
      optional str? holder = some spec.holderIdentity ∧
      optional int32? duration = some spec.leaseDurationSeconds ∧
      optional int32? transitions = some spec.leaseTransitions ∧
      optional time? renew = some spec.renewTime := by
  rw [read?, fields, Option.bind_eq_bind, Option.bind_some]
  constructor
  · intro h
    obtain ⟨_, acquire_eq, h⟩ := Option.bind_eq_some_iff.1 h
    obtain ⟨_, holder_eq, h⟩ := Option.bind_eq_some_iff.1 h
    obtain ⟨_, duration_eq, h⟩ := Option.bind_eq_some_iff.1 h
    obtain ⟨_, transitions_eq, h⟩ := Option.bind_eq_some_iff.1 h
    obtain ⟨_, renew_eq, h⟩ := Option.bind_eq_some_iff.1 h
    obtain rfl := Option.some.inj h
    exact ⟨acquire_eq, holder_eq, duration_eq, transitions_eq, renew_eq⟩
  · rintro ⟨acquire_eq, holder_eq, duration_eq, transitions_eq, renew_eq⟩
    refine Option.bind_eq_some_iff.2 ⟨_, acquire_eq, ?_⟩
    refine Option.bind_eq_some_iff.2 ⟨_, holder_eq, ?_⟩
    refine Option.bind_eq_some_iff.2 ⟨_, duration_eq, ?_⟩
    refine Option.bind_eq_some_iff.2 ⟨_, transitions_eq, ?_⟩
    refine Option.bind_eq_some_iff.2 ⟨_, renew_eq, ?_⟩
    rfl

theorem exists_members {j : Json} {spec : LeaseSpec} (h : read? j = some spec) :
    ∃ members, j = .obj members := by
  cases j with
  | obj members => exact ⟨members, rfl⟩
  | _ => cases h

theorem fields_toJson (spec : LeaseSpec) :
    objectFields? fieldNames spec.toJson = some [spec.acquireTime.map (ofTime .micros),
      spec.holderIdentity.map .str, spec.leaseDurationSeconds.map .int,
      spec.leaseTransitions.map .int, spec.renewTime.map (ofTime .micros)] :=
  Json.objectFields?_ofFields fieldNames (by decide) rfl

/-- The spec with its times in whole microseconds. -/
def cutMicros (spec : LeaseSpec) : LeaseSpec :=
  { spec with
    acquireTime := spec.acquireTime.map (·.cut .micros)
    renewTime := spec.renewTime.map (·.cut .micros) }

theorem rewrites : Rewrites read? toJson cutMicros := by
  intro j spec h
  refine ⟨nofun, ?_⟩
  obtain ⟨members, rfl⟩ := exists_members h
  obtain ⟨acquire_eq, holder_eq, duration_eq, transitions_eq, renew_eq⟩ := (read?_iff rfl).1 h
  exact (read?_iff spec.fields_toJson).2 ⟨(rewrites_time .micros).optional _ _ acquire_eq,
    rewrites_str.optional_id _ _ holder_eq, (rewrites_intIn _ _).optional_id _ _ duration_eq,
    (rewrites_intIn _ _).optional_id _ _ transitions_eq,
    (rewrites_time .micros).optional _ _ renew_eq⟩

end LeaseSpec

namespace Lease

/-- Both parts of the lease were read from something. -/
structure IsRead (lease : Lease) : Prop where
  metadata : ∃ j, ObjectMeta.read? j = some lease.metadata
  spec : ∀ spec, lease.spec = some spec → ∃ j, LeaseSpec.read? j = some spec

/-- Reading a lease means that its type fits and that both of its parts are read. A lease without
metadata is one with empty metadata. -/
theorem read?_iff {j : Json} {lease : Lease} {apiVersion kind metadata spec : Option Json}
    (fields : objectFields? ["apiVersion", "kind", "metadata", "spec"] j =
      some [apiVersion, kind, metadata, spec]) :
    read? j = some lease ↔
      type.check? apiVersion kind = some () ∧
      (optional ObjectMeta.read? metadata).map (·.getD {}) = some lease.metadata ∧
      optional LeaseSpec.read? spec = some lease.spec := by
  rw [read?, fields, Option.bind_eq_bind, Option.bind_some]
  constructor
  · intro h
    obtain ⟨_, type_eq, h⟩ := Option.bind_eq_some_iff.1 h
    obtain ⟨md, md_eq, h⟩ := Option.bind_eq_some_iff.1 h
    obtain ⟨_, spec_eq, h⟩ := Option.bind_eq_some_iff.1 h
    obtain rfl := Option.some.inj h
    exact ⟨type_eq, by rw [md_eq, Option.map_some], spec_eq⟩
  · rintro ⟨type_eq, md_eq, spec_eq⟩
    obtain ⟨md, md_eq, md_same⟩ := Option.map_eq_some_iff.1 md_eq
    refine Option.bind_eq_some_iff.2 ⟨_, type_eq, ?_⟩
    refine Option.bind_eq_some_iff.2 ⟨_, md_eq, ?_⟩
    refine Option.bind_eq_some_iff.2 ⟨_, spec_eq, ?_⟩
    rw [md_same]
    rfl

theorem exists_members {j : Json} {lease : Lease} (h : read? j = some lease) :
    ∃ members, j = .obj members := by
  cases j with
  | obj members => exact ⟨members, rfl⟩
  | _ => cases h

theorem isRead_of_read? {j : Json} {lease : Lease} (h : read? j = some lease) : lease.IsRead := by
  obtain ⟨members, rfl⟩ := exists_members h
  obtain ⟨-, md_eq, spec_eq⟩ := (read?_iff rfl).1 h
  constructor
  · obtain ⟨md, md_eq, md_same⟩ := Option.map_eq_some_iff.1 md_eq
    rw [← md_same]
    cases md with
    | none => exact ⟨.obj [], rfl⟩
    | some md => exact exists_of_optional md_eq
  · intro spec is_spec
    rw [is_spec] at spec_eq
    exact exists_of_optional spec_eq

/-- The lease as it is written. -/
def cut (lease : Lease) : Lease :=
  ⟨lease.metadata.wholeSeconds, lease.spec.map LeaseSpec.cutMicros⟩

theorem fields_toJson (lease : Lease) :
    objectFields? ["apiVersion", "kind", "metadata", "spec"] lease.toJson =
      some [some (.str type.apiVersion), some (.str type.kind), some lease.metadata.toJson,
        lease.spec.map LeaseSpec.toJson] :=
  Json.objectFields?_ofFields _ (by decide) rfl

theorem IsRead.read?_toJson {lease : Lease} (h : lease.IsRead) :
    read? lease.toJson = some lease.cut := by
  obtain ⟨⟨_, md_read⟩, spec_read⟩ := h
  obtain ⟨md_ne_null, md_again⟩ := ObjectMeta.rewrites _ _ md_read
  refine (read?_iff lease.fields_toJson).2 ⟨by simp [TypeName.check?, TypeName.fixed?], ?_, ?_⟩
  · rw [optional_of_ne_null md_ne_null, md_again]
    rfl
  · rw [cut]
    cases spec_eq : lease.spec with
    | none => rfl
    | some spec =>
        obtain ⟨_, read⟩ := spec_read spec spec_eq
        obtain ⟨ne_null, again⟩ := LeaseSpec.rewrites _ _ read
        rw [Option.map_some, optional_of_ne_null ne_null, again]
        rfl

end Lease

end GatedManager.Api
