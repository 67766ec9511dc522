import GatedManager.Proofs.Api.Fields

/-!
# Metadata read back

Metadata that was read keeps everything through being written and read again, except that its times
are cut to whole seconds.
-/

namespace GatedManager.Api

open Json (objectFields? ofFields optional texts? int64? str? list?)

theorem OwnerReference.rewrites : Rewrites read? toJson id := by
  intro j owner h
  refine ⟨nofun, ?_⟩
  have written : objectFields? fieldNames owner.toJson = some _ :=
    Json.objectFields?_ofFields fieldNames (by decide) rfl
  obtain ⟨fields, -, h⟩ := Option.bind_eq_some_iff.1 h
  split at h
  · obtain ⟨apiVersion, apiVersion_eq, h⟩ := Option.bind_eq_some_iff.1 h
    obtain ⟨block, block_eq, h⟩ := Option.bind_eq_some_iff.1 h
    obtain ⟨controller, controller_eq, h⟩ := Option.bind_eq_some_iff.1 h
    obtain ⟨kind, kind_eq, h⟩ := Option.bind_eq_some_iff.1 h
    obtain ⟨name, name_eq, h⟩ := Option.bind_eq_some_iff.1 h
    obtain ⟨uid, uid_eq, h⟩ := Option.bind_eq_some_iff.1 h
    obtain rfl := Option.some.inj h
    rw [read?, written]
    refine Option.bind_eq_some_iff.2 ⟨_, rfl, ?_⟩
    refine Option.bind_eq_some_iff.2 ⟨_, rewrites_textOrEmpty _ _ apiVersion_eq, ?_⟩
    refine Option.bind_eq_some_iff.2 ⟨_, rewrites_bool.optional_id _ _ block_eq, ?_⟩
    refine Option.bind_eq_some_iff.2 ⟨_, rewrites_bool.optional_id _ _ controller_eq, ?_⟩
    refine Option.bind_eq_some_iff.2 ⟨_, rewrites_textOrEmpty _ _ kind_eq, ?_⟩
    refine Option.bind_eq_some_iff.2 ⟨_, rewrites_textOrEmpty _ _ name_eq, ?_⟩
    refine Option.bind_eq_some_iff.2 ⟨_, rewrites_textOrEmpty _ _ uid_eq, ?_⟩
    simp
  · cases h

/-- The entry with its time in whole seconds. -/
def ManagedFields.wholeSeconds (entry : ManagedFields) : ManagedFields :=
  { entry with time := entry.time.map (·.cut .seconds) }

theorem ManagedFields.rewrites : Rewrites read? toJson wholeSeconds := by
  intro j entry h
  refine ⟨nofun, ?_⟩
  have written : objectFields? fieldNames entry.toJson = some _ :=
    Json.objectFields?_ofFields fieldNames (by decide) rfl
  obtain ⟨fields, -, h⟩ := Option.bind_eq_some_iff.1 h
  split at h
  · obtain ⟨apiVersion, apiVersion_eq, h⟩ := Option.bind_eq_some_iff.1 h
    obtain ⟨type, type_eq, h⟩ := Option.bind_eq_some_iff.1 h
    obtain ⟨fields, fields_eq, h⟩ := Option.bind_eq_some_iff.1 h
    obtain ⟨manager, manager_eq, h⟩ := Option.bind_eq_some_iff.1 h
    obtain ⟨operation, operation_eq, h⟩ := Option.bind_eq_some_iff.1 h
    obtain ⟨subresource, subresource_eq, h⟩ := Option.bind_eq_some_iff.1 h
    obtain ⟨time, time_eq, h⟩ := Option.bind_eq_some_iff.1 h
    obtain rfl := Option.some.inj h
    rw [read?, written]
    refine Option.bind_eq_some_iff.2 ⟨_, rfl, ?_⟩
    refine Option.bind_eq_some_iff.2 ⟨_, rewrites_str.optional_id _ _ apiVersion_eq, ?_⟩
    refine Option.bind_eq_some_iff.2 ⟨_, rewrites_str.optional_id _ _ type_eq, ?_⟩
    refine Option.bind_eq_some_iff.2 ⟨_, rewrites_any _ _ fields_eq, ?_⟩
    refine Option.bind_eq_some_iff.2 ⟨_, rewrites_str.optional_id _ _ manager_eq, ?_⟩
    refine Option.bind_eq_some_iff.2 ⟨_, rewrites_str.optional_id _ _ operation_eq, ?_⟩
    refine Option.bind_eq_some_iff.2 ⟨_, rewrites_str.optional_id _ _ subresource_eq, ?_⟩
    refine Option.bind_eq_some_iff.2 ⟨_, (rewrites_time .seconds).optional _ _ time_eq, ?_⟩
    simp [wholeSeconds]
  · cases h

namespace ObjectMeta

/-- The metadata with its times in whole seconds, the form in which they are written. -/
def wholeSeconds (md : ObjectMeta) : ObjectMeta :=
  { md with
    creationTimestamp := md.creationTimestamp.map (·.cut .seconds)
    deletionTimestamp := md.deletionTimestamp.map (·.cut .seconds)
    managedFields := md.managedFields.map (·.map ManagedFields.wholeSeconds) }

/-- Reading metadata means reading each of its fields. -/
theorem read?_iff {j : Json} {md : ObjectMeta}
    {annotations creation grace deletion finalizers generateName generation labels managed name
     space owners version link uid : Option Json}
    (fields : objectFields? fieldNames j = some
      [annotations, creation, grace, deletion, finalizers, generateName, generation, labels,
       managed, name, space, owners, version, link, uid]) :
    read? j = some md ↔
      optional texts? annotations = some md.annotations ∧
      optional time? creation = some md.creationTimestamp ∧
      optional int64? grace = some md.deletionGracePeriodSeconds ∧
      optional time? deletion = some md.deletionTimestamp ∧
      optional (list? str?) finalizers = some md.finalizers ∧
      optional str? generateName = some md.generateName ∧
      optional int64? generation = some md.generation ∧
      optional texts? labels = some md.labels ∧
      optional (list? ManagedFields.read?) managed = some md.managedFields ∧
      optional str? name = some md.name ∧
      optional str? space = some md.namespaceName ∧
      optional (list? OwnerReference.read?) owners = some md.ownerReferences ∧
      optional str? version = some md.resourceVersion ∧
      optional str? link = some md.selfLink ∧
      optional str? uid = some md.uid := by
  rw [read?, fields, Option.bind_eq_bind, Option.bind_some]
  constructor
  · intro h
    obtain ⟨_, annotations_eq, h⟩ := Option.bind_eq_some_iff.1 h
    obtain ⟨_, creation_eq, h⟩ := Option.bind_eq_some_iff.1 h
    obtain ⟨_, grace_eq, h⟩ := Option.bind_eq_some_iff.1 h
    obtain ⟨_, deletion_eq, h⟩ := Option.bind_eq_some_iff.1 h
    obtain ⟨_, finalizers_eq, h⟩ := Option.bind_eq_some_iff.1 h
    obtain ⟨_, generateName_eq, h⟩ := Option.bind_eq_some_iff.1 h
    obtain ⟨_, generation_eq, h⟩ := Option.bind_eq_some_iff.1 h
    obtain ⟨_, labels_eq, h⟩ := Option.bind_eq_some_iff.1 h
    obtain ⟨_, managed_eq, h⟩ := Option.bind_eq_some_iff.1 h
    obtain ⟨_, name_eq, h⟩ := Option.bind_eq_some_iff.1 h
    obtain ⟨_, space_eq, h⟩ := Option.bind_eq_some_iff.1 h
    obtain ⟨_, owners_eq, h⟩ := Option.bind_eq_some_iff.1 h
    obtain ⟨_, version_eq, h⟩ := Option.bind_eq_some_iff.1 h
    obtain ⟨_, link_eq, h⟩ := Option.bind_eq_some_iff.1 h
    obtain ⟨_, uid_eq, h⟩ := Option.bind_eq_some_iff.1 h
    obtain rfl := Option.some.inj h
    exact ⟨annotations_eq, creation_eq, grace_eq, deletion_eq, finalizers_eq, generateName_eq,
      generation_eq, labels_eq, managed_eq, name_eq, space_eq, owners_eq, version_eq, link_eq,
      uid_eq⟩
  · rintro ⟨annotations_eq, creation_eq, grace_eq, deletion_eq, finalizers_eq, generateName_eq,
      generation_eq, labels_eq, managed_eq, name_eq, space_eq, owners_eq, version_eq, link_eq,
      uid_eq⟩
    refine Option.bind_eq_some_iff.2 ⟨_, annotations_eq, ?_⟩
    refine Option.bind_eq_some_iff.2 ⟨_, creation_eq, ?_⟩
    refine Option.bind_eq_some_iff.2 ⟨_, grace_eq, ?_⟩
    refine Option.bind_eq_some_iff.2 ⟨_, deletion_eq, ?_⟩
    refine Option.bind_eq_some_iff.2 ⟨_, finalizers_eq, ?_⟩
    refine Option.bind_eq_some_iff.2 ⟨_, generateName_eq, ?_⟩
    refine Option.bind_eq_some_iff.2 ⟨_, generation_eq, ?_⟩
    refine Option.bind_eq_some_iff.2 ⟨_, labels_eq, ?_⟩
    refine Option.bind_eq_some_iff.2 ⟨_, managed_eq, ?_⟩
    refine Option.bind_eq_some_iff.2 ⟨_, name_eq, ?_⟩
    refine Option.bind_eq_some_iff.2 ⟨_, space_eq, ?_⟩
    refine Option.bind_eq_some_iff.2 ⟨_, owners_eq, ?_⟩
    refine Option.bind_eq_some_iff.2 ⟨_, version_eq, ?_⟩
    refine Option.bind_eq_some_iff.2 ⟨_, link_eq, ?_⟩
    refine Option.bind_eq_some_iff.2 ⟨_, uid_eq, ?_⟩
    rfl

theorem exists_members {j : Json} {md : ObjectMeta} (h : read? j = some md) :
    ∃ members, j = .obj members := by
  cases j with
  | obj members => exact ⟨members, rfl⟩
  | _ => cases h

theorem rewrites : Rewrites read? toJson wholeSeconds := by
  intro j md h
  refine ⟨nofun, ?_⟩
  have written : objectFields? fieldNames md.toJson = some _ :=
    Json.objectFields?_ofFields fieldNames (by decide) rfl
  obtain ⟨members, rfl⟩ := exists_members h
  obtain ⟨annotations_eq, creation_eq, grace_eq, deletion_eq, finalizers_eq, generateName_eq,
    generation_eq, labels_eq, managed_eq, name_eq, space_eq, owners_eq, version_eq, link_eq,
    uid_eq⟩ := (read?_iff rfl).1 h
  exact (read?_iff written).2 ⟨rewrites_texts.optional_id _ _ annotations_eq,
    (rewrites_time .seconds).optional _ _ creation_eq,
    (rewrites_intIn _ _).optional_id _ _ grace_eq,
    (rewrites_time .seconds).optional _ _ deletion_eq,
    rewrites_str.list_id.optional_id _ _ finalizers_eq,
    rewrites_str.optional_id _ _ generateName_eq,
    (rewrites_intIn _ _).optional_id _ _ generation_eq, rewrites_texts.optional_id _ _ labels_eq,
    ManagedFields.rewrites.list.optional _ _ managed_eq, rewrites_str.optional_id _ _ name_eq,
    rewrites_str.optional_id _ _ space_eq,
    OwnerReference.rewrites.list_id.optional_id _ _ owners_eq,
    rewrites_str.optional_id _ _ version_eq, rewrites_str.optional_id _ _ link_eq,
    rewrites_str.optional_id _ _ uid_eq⟩

/-- Setting the version in the JSON of metadata sets it in the metadata, and nothing else. -/
theorem read?_insertVersion {members : List (String × Json)} {md : ObjectMeta} (version : String)
    (ascending : Json.Ascending members) (h : read? (.obj members) = some md) :
    read? (.obj (Json.insertMember "resourceVersion" (.str version) members)) =
      some { md with resourceVersion := some version } := by
  obtain ⟨annotations_eq, creation_eq, grace_eq, deletion_eq, finalizers_eq, generateName_eq,
    generation_eq, labels_eq, managed_eq, name_eq, space_eq, owners_eq, -, link_eq, uid_eq⟩ :=
      (read?_iff rfl).1 h
  have fields : objectFields? fieldNames
      (.obj (Json.insertMember "resourceVersion" (.str version) members)) =
        some (fieldNames.map fun name =>
          if name = "resourceVersion" then some (.str version) else Json.member? name members) := by
    simp only [objectFields?, Json.member?_insertMember ascending]
  simp only [fieldNames, List.map_cons, List.map_nil, String.reduceEq, if_true, if_false] at fields
  exact (read?_iff fields).2 ⟨annotations_eq, creation_eq, grace_eq, deletion_eq, finalizers_eq,
    generateName_eq, generation_eq, labels_eq, managed_eq, name_eq, space_eq, owners_eq, rfl,
    link_eq, uid_eq⟩

end ObjectMeta

end GatedManager.Api
