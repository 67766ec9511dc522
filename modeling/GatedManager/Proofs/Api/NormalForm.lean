import GatedManager.Proofs.Api.Config
import GatedManager.Proofs.Api.Machines
import GatedManager.Proofs.Api.Metadata

/-!
# The normal form of an object

An object that was read, from JSON of either shape and with fields left out, null or unknown, is
written in a normal form: it is read as an object with the same spec and the same status, and that
is written as the same JSON. Only the times of the metadata lose their decimals. Names that stand
for themselves come back as they were.
-/

namespace GatedManager.Json

variable {read? : Json → Option α} {names : List String} {name : String}

theorem of_required {field : Option Json} {a : α} {j : Json} (h : required read? field = some a)
    (there : field = some j) : read? j = some a := by
  subst there
  exact h

theorem of_defaulted {field : Option Json} {default a : α} {j : Json}
    (h : defaulted default read? field = some a) (there : field = some j) : read? j = some a := by
  subst there
  exact h

theorem of_optional {field : Option Json} {a? : Option α} {j : Json}
    (h : optional read? field = some a?) (there : field = some j) (ne_null : j ≠ .null) :
    ∃ a, read? j = some a ∧ a? = some a := by
  subst there
  rw [Api.optional_of_ne_null ne_null, Option.map_eq_some_iff] at h
  obtain ⟨a, value, rfl⟩ := h
  exact ⟨a, value, rfl⟩

end GatedManager.Json

namespace GatedManager.Api

open Json (defaulted field? ofFields optional recordFields? required str?)

variable {α β : Type}

/-! ### Texts inside a value -/

/-- A text that `look` finds in JSON is found in what is written of the value, changed by `f`. -/
def KeepsText (read? : Json → Option α) (write : α → Json) (look : Json → Option Json)
    (f : String → String) : Prop :=
  ∀ j a s, read? j = some a → look j = some (.str s) → look (write a) = some (.str (f s))

/-- A record has a field of a type: where it is there and not null, it is read and written so. -/
def HasField (read? : Json → Option α) (write : α → Json) (names : List String) (name : String)
    (inner? : Json → Option β) (writeInner : β → Json) : Prop :=
  ∀ j a v, read? j = some a → field? names name j = some v → v ≠ .null →
    ∃ b, inner? v = some b ∧ field? names name (write a) = some (writeInner b)

/-- What `look` finds in a field of a record. -/
def inside (names : List String) (name : String) (look : Json → Option Json) (j : Json) :
    Option Json :=
  (field? names name j).bind look

theorem inside_null (names : List String) (name : String) (look : Json → Option Json)
    (s : String) : inside names name look .null ≠ some (.str s) := nofun

theorem KeepsText.inside {read? : Json → Option α} {write : α → Json} {names : List String}
    {name : String} {inner? : Json → Option β} {writeInner : β → Json}
    {look : Json → Option Json} {f : String → String} (h : KeepsText inner? writeInner look f)
    (field : HasField read? write names name inner? writeInner)
    (look_null : ∀ s, look .null ≠ some (.str s)) :
    KeepsText read? write (inside names name look) f := by
  intro j a s read found
  obtain ⟨v, there, found⟩ := Option.bind_eq_some_iff.1 found
  have ne_null : v ≠ .null := by
    rintro rfl
    exact look_null s found
  obtain ⟨b, value, written⟩ := field j a v read there ne_null
  exact Option.bind_eq_some_iff.2 ⟨_, written, h v b s value found⟩

theorem MachineAuthority.keepsText : KeepsText read? toJson some id := by
  rintro j a s read found
  obtain rfl := Option.some.inj found
  obtain rfl := Option.some.inj read
  exact congrArg (fun name => some (Json.str name)) (name_ofName s)

theorem FeatureSet.keepsText :
    KeepsText (fun j => (str? j).map ofName) (fun set => .str set.name) some
      (fun name => if name = "Default" then "" else name) := by
  rintro j a s read found
  obtain rfl := Option.some.inj found
  obtain rfl := Option.some.inj read
  exact congrArg (fun name => some (Json.str name)) (name_ofName s)

/-! ### Fields of records -/

theorem FeatureGateSpec.hasFeatureSet :
    HasField read? toJson fieldNames "featureSet" (fun j => (str? j).map FeatureSet.ofName)
      (fun set => .str set.name) := by
  intro j spec v h there ne_null
  replace h := Json.of_recordFields? (by decide) h
  simp only [fieldNames, List.map, Option.bind_eq_bind, Option.bind_eq_some_iff] at h
  obtain ⟨set, set_eq, custom, -, h⟩ := h
  obtain rfl := Option.some.inj h
  exact ⟨set, Json.of_defaulted set_eq there, Json.field?_ofFields _ (by simp) (by simp)⟩

theorem MachineSpec.hasAuthority :
    HasField read? toJson fieldNames "authoritativeAPI" MachineAuthority.read?
      MachineAuthority.toJson := by
  intro j spec v h there ne_null
  replace h := Json.of_recordFields? (by decide) h
  simp only [fieldNames, List.map, Option.bind_eq_bind, Option.bind_eq_some_iff] at h
  obtain ⟨_, -, _, -, _, -, authority?, authority_eq, h⟩ := h
  obtain rfl := Option.some.inj h
  obtain ⟨authority, value, rfl⟩ := Json.of_optional authority_eq there ne_null
  exact ⟨authority, value, Json.field?_ofFields _ (by simp) (by simp)⟩

theorem MachineStatus.hasAuthority :
    HasField read? toJson fieldNames "authoritativeAPI" MachineAuthority.read?
      MachineAuthority.toJson := by
  intro j status v h there ne_null
  replace h := Json.of_recordFields? (by decide) h
  simp only [fieldNames, List.map, Option.bind_eq_bind, Option.bind_eq_some_iff] at h
  obtain ⟨_, -, _, -, _, -, authority?, authority_eq, h⟩ := h
  obtain rfl := Option.some.inj h
  obtain ⟨authority, value, rfl⟩ := Json.of_optional authority_eq there ne_null
  exact ⟨authority, value, Json.field?_ofFields _ (by simp) (by simp)⟩

theorem MachineTemplate.hasSpec :
    HasField read? toJson ["metadata", "spec"] "spec" MachineSpec.read? MachineSpec.toJson := by
  intro j template v h there ne_null
  replace h := Json.of_recordFields? (by decide) h
  simp only [List.map, Option.bind_eq_bind, Option.bind_eq_some_iff] at h
  obtain ⟨_, -, spec, spec_eq, h⟩ := h
  obtain rfl := Option.some.inj h
  exact ⟨spec, Json.of_defaulted spec_eq there, Json.field?_ofFields _ (by simp) (by simp)⟩

theorem MachineSetSpec.hasTemplate :
    HasField read? toJson fieldNames "template" MachineTemplate.read? MachineTemplate.toJson := by
  intro j spec v h there ne_null
  replace h := Json.of_recordFields? (by decide) h
  simp only [fieldNames, List.map, Option.bind_eq_bind, Option.bind_eq_some_iff] at h
  obtain ⟨_, -, _, -, template, template_eq, _, -, h⟩ := h
  obtain rfl := Option.some.inj h
  exact ⟨template, Json.of_defaulted template_eq there,
    Json.field?_ofFields _ (by simp) (by simp)⟩

theorem MachineSetSpec.hasAuthority :
    HasField read? toJson fieldNames "authoritativeAPI" MachineAuthority.read?
      MachineAuthority.toJson := by
  intro j spec v h there ne_null
  replace h := Json.of_recordFields? (by decide) h
  simp only [fieldNames, List.map, Option.bind_eq_bind, Option.bind_eq_some_iff] at h
  obtain ⟨_, -, _, -, _, -, authority?, authority_eq, h⟩ := h
  obtain rfl := Option.some.inj h
  obtain ⟨authority, value, rfl⟩ := Json.of_optional authority_eq there ne_null
  exact ⟨authority, value, Json.field?_ofFields _ (by simp) (by simp)⟩

/-! ### Metadata -/

theorem ofTime_cut (precision : Timestamp.Precision) (t : Timestamp) :
    ofTime precision (t.cut precision) = ofTime precision t :=
  congrArg Json.str (t.render_cut precision)

theorem ManagedFields.toJson_wholeSeconds (entry : ManagedFields) :
    entry.wholeSeconds.toJson = entry.toJson := by
  simp only [toJson, wholeSeconds, Option.map_map, Function.comp_def, ofTime_cut]

/-- Metadata is written in whole seconds, so it is written alike once it has lost the rest. -/
theorem ObjectMeta.toJson_wholeSeconds (md : ObjectMeta) : md.wholeSeconds.toJson = md.toJson := by
  simp only [toJson, wholeSeconds, Option.map_map, Function.comp_def, List.map_map, ofTime_cut,
    ManagedFields.toJson_wholeSeconds]

/-! ### Objects -/

namespace Resource

variable {Spec Status : Type} {readSpec : Json → Option Spec} {readStatus : Json → Option Status}
  {writeSpec : Spec → Json} {writeStatus : Status → Json} {type : TypeName}
  {j : Json} {a : Resource Spec Status}

/-- Reading an object means reading each of its parts. -/
theorem parts_of_read? (h : read? readSpec readStatus j = some a) :
    required ObjectMeta.read? (field? fieldNames "metadata" j) = some a.metadata ∧
      required readSpec (field? fieldNames "spec" j) = some a.spec ∧
      optional readStatus (field? fieldNames "status" j) = some a.status := by
  replace h := Json.of_recordFields? (by decide) h
  simp only [fieldNames, List.map, Option.ite_none_right_eq_some, Option.bind_eq_bind,
    Option.bind_eq_some_iff] at h
  obtain ⟨-, metadata, metadata_eq, spec, spec_eq, status, status_eq, h⟩ := h
  obtain rfl := Option.some.inj h
  exact ⟨metadata_eq, spec_eq, status_eq⟩

/-- The object with the times of its metadata in whole seconds, the form in which it is written. -/
def wholeSeconds (a : Resource Spec Status) : Resource Spec Status :=
  { a with metadata := a.metadata.wholeSeconds }

theorem toJson_wholeSeconds (a : Resource Spec Status) :
    a.wholeSeconds.toJson type writeSpec writeStatus = a.toJson type writeSpec writeStatus := by
  simp only [toJson, wholeSeconds, ObjectMeta.toJson_wholeSeconds]

theorem rewrites (spec : Rewrites readSpec writeSpec id)
    (status : Rewrites readStatus writeStatus id) :
    Rewrites (read? readSpec readStatus) (toJson type writeSpec writeStatus) wholeSeconds := by
  intro j a h
  refine ⟨nofun, ?_⟩
  obtain ⟨metadata_eq, spec_eq, status_eq⟩ := parts_of_read? h
  have written : recordFields? fieldNames (a.toJson type writeSpec writeStatus) =
      some [some a.metadata.toJson, some (writeSpec a.spec), a.status.map writeStatus] :=
    Json.objectFields?_ofFields_of_subset [("metadata", some a.metadata.toJson),
      ("spec", some (writeSpec a.spec)), ("status", a.status.map writeStatus)] (by simp) (by simp)
  have whole : isWhole (a.toJson type writeSpec writeStatus) = true := rfl
  rw [read?, written]
  simp [whole, ObjectMeta.rewrites.required _ _ metadata_eq, spec.required _ _ spec_eq,
    status.optional_id _ _ status_eq, wholeSeconds]

theorem hasSpec : HasField (read? readSpec readStatus) (toJson type writeSpec writeStatus)
    fieldNames "spec" readSpec writeSpec := by
  intro j a v h there ne_null
  exact ⟨a.spec, Json.of_required (parts_of_read? h).2.1 there,
    Json.field?_ofFields _ (by simp) (by simp)⟩

theorem hasStatus : HasField (read? readSpec readStatus) (toJson type writeSpec writeStatus)
    fieldNames "status" readStatus writeStatus := by
  intro j a v h there ne_null
  obtain ⟨status, value, is_status⟩ := Json.of_optional (parts_of_read? h).2.2 there ne_null
  exact ⟨status, value, Json.field?_ofFields _ (by simp) (by simp [is_status])⟩

end Resource

/-- What is written of `a` is read as `again` and is written of it too; the two are the same object,
but for the decimals of times in the metadata. -/
structure NormalForm {Spec Status : Type} (read? : Json → Option (Resource Spec Status))
    (toJson : Resource Spec Status → Json) (a again : Resource Spec Status) : Prop where
  read : read? (toJson a) = some again
  written : toJson again = toJson a
  metadata : again.metadata = a.metadata.wholeSeconds
  spec : again.spec = a.spec
  status : again.status = a.status

theorem Resource.normalForm {Spec Status : Type} {readSpec : Json → Option Spec}
    {readStatus : Json → Option Status} {writeSpec : Spec → Json} {writeStatus : Status → Json}
    (type : TypeName) (spec : Rewrites readSpec writeSpec id)
    (status : Rewrites readStatus writeStatus id) {j : Json} {a : Resource Spec Status}
    (h : read? readSpec readStatus j = some a) :
    NormalForm (read? readSpec readStatus) (toJson type writeSpec writeStatus) a a.wholeSeconds where
  read := (rewrites spec status j a h).2
  written := toJson_wholeSeconds a
  metadata := rfl
  spec := rfl
  status := rfl

/-! ### The four kinds -/

/-- The name of the feature set in the JSON of a feature gate. -/
def FeatureGate.setIn? : Json → Option Json :=
  inside Resource.fieldNames "spec" (inside FeatureGateSpec.fieldNames "featureSet" some)

/-- The name of the authority in the spec of a machine. -/
def Machine.authorityIn? : Json → Option Json :=
  inside Resource.fieldNames "spec" (inside MachineSpec.fieldNames "authoritativeAPI" some)

/-- The name of the authority in the status of a machine. -/
def Machine.statusAuthorityIn? : Json → Option Json :=
  inside Resource.fieldNames "status" (inside MachineStatus.fieldNames "authoritativeAPI" some)

/-- The name of the authority in the spec of a machine set. -/
def MachineSet.authorityIn? : Json → Option Json :=
  inside Resource.fieldNames "spec" (inside MachineSetSpec.fieldNames "authoritativeAPI" some)

/-- The name of the authority in the template of a machine set. -/
def MachineSet.templateAuthorityIn? : Json → Option Json :=
  inside Resource.fieldNames "spec" (inside MachineSetSpec.fieldNames "template"
    (inside ["metadata", "spec"] "spec" (inside MachineSpec.fieldNames "authoritativeAPI" some)))

theorem some_null (s : String) : some Json.null ≠ some (.str s) := nofun

theorem FeatureGate.keepsSet :
    KeepsText read? toJson setIn? (fun name => if name = "Default" then "" else name) :=
  (FeatureSet.keepsText.inside FeatureGateSpec.hasFeatureSet some_null).inside Resource.hasSpec
    (inside_null _ _ _)

theorem Machine.keepsAuthority : KeepsText read? toJson authorityIn? id :=
  (MachineAuthority.keepsText.inside MachineSpec.hasAuthority some_null).inside Resource.hasSpec
    (inside_null _ _ _)

theorem Machine.keepsStatusAuthority : KeepsText read? toJson statusAuthorityIn? id :=
  (MachineAuthority.keepsText.inside MachineStatus.hasAuthority some_null).inside
    Resource.hasStatus (inside_null _ _ _)

theorem MachineSet.keepsAuthority : KeepsText read? toJson authorityIn? id :=
  (MachineAuthority.keepsText.inside MachineSetSpec.hasAuthority some_null).inside
    Resource.hasSpec (inside_null _ _ _)

theorem MachineSet.keepsTemplateAuthority : KeepsText read? toJson templateAuthorityIn? id :=
  (((MachineAuthority.keepsText.inside MachineSpec.hasAuthority some_null).inside
    MachineTemplate.hasSpec (inside_null _ _ _)).inside MachineSetSpec.hasTemplate
    (inside_null _ _ _)).inside Resource.hasSpec (inside_null _ _ _)

/-- Every object of the four kinds has a normal form, whatever JSON it was read from: its normal
form is the normal form of itself, and whatever is asked of an object is answered alike. The names
of feature sets and of authorities stay as they were, and `Default` becomes empty. -/
theorem objects_have_normal_forms :
    (∀ j gate, FeatureGate.read? j = some gate →
      ∃ again, NormalForm FeatureGate.read? FeatureGate.toJson gate again ∧
        (∀ version, FeatureGate.detailsFor? again version = FeatureGate.detailsFor? gate version) ∧
        ∀ s, FeatureGate.setIn? j = some (.str s) →
          FeatureGate.setIn? (FeatureGate.toJson gate) =
            some (.str (if s = "Default" then "" else s))) ∧
    (∀ j version, ClusterVersion.read? j = some version →
      ∃ again, NormalForm ClusterVersion.read? ClusterVersion.toJson version again ∧
        ClusterVersion.desiredVersion? again = ClusterVersion.desiredVersion? version) ∧
    (∀ j machine, Machine.read? j = some machine →
      ∃ again, NormalForm Machine.read? Machine.toJson machine again ∧
        again.spec.authority = machine.spec.authority ∧
        again.status.bind (·.authority) = machine.status.bind (·.authority) ∧
        (∀ name, again.status.bind (·.nodeRef) = some (.node name) ↔
          machine.status.bind (·.nodeRef) = some (.node name)) ∧
        (∀ s, Machine.authorityIn? j = some (.str s) →
          Machine.authorityIn? (Machine.toJson machine) = some (.str s)) ∧
        ∀ s, Machine.statusAuthorityIn? j = some (.str s) →
          Machine.statusAuthorityIn? (Machine.toJson machine) = some (.str s)) ∧
    ∀ j set, MachineSet.read? j = some set →
      ∃ again, NormalForm MachineSet.read? MachineSet.toJson set again ∧
        again.spec.replicas = set.spec.replicas ∧
        again.status.map (·.replicas) = set.status.map (·.replicas) ∧
        again.spec.authority = set.spec.authority ∧
        again.spec.template.spec.authority = set.spec.template.spec.authority ∧
        (∀ s, MachineSet.authorityIn? j = some (.str s) →
          MachineSet.authorityIn? (MachineSet.toJson set) = some (.str s)) ∧
        ∀ s, MachineSet.templateAuthorityIn? j = some (.str s) →
          MachineSet.templateAuthorityIn? (MachineSet.toJson set) = some (.str s) := by
  refine ⟨fun j gate h => ?_, fun j version h => ?_, fun j machine h => ?_, fun j set h => ?_⟩
  · have normal := Resource.normalForm FeatureGate.type FeatureGateSpec.rewrites
      FeatureGateStatus.rewrites h
    exact ⟨_, normal, fun version => rfl, fun s => FeatureGate.keepsSet j gate s h⟩
  · have normal := Resource.normalForm ClusterVersion.type ClusterVersionSpec.rewrites
      ClusterVersionStatus.rewrites h
    exact ⟨_, normal, rfl⟩
  · have normal := Resource.normalForm Machine.type MachineSpec.rewrites MachineStatus.rewrites h
    exact ⟨_, normal, rfl, rfl, fun name => Iff.rfl, fun s => Machine.keepsAuthority j machine s h,
      fun s => Machine.keepsStatusAuthority j machine s h⟩
  · have normal := Resource.normalForm MachineSet.type MachineSetSpec.rewrites
      MachineSetStatus.rewrites h
    exact ⟨_, normal, rfl, rfl, rfl, rfl, fun s => MachineSet.keepsAuthority j set s h,
      fun s => MachineSet.keepsTemplateAuthority j set s h⟩

/-- A feature gate that is written as an array and names its standard set. -/
def standardGate : Json :=
  .arr [.obj [("name", .str "cluster")], .arr [.str "Default", .null],
    .obj [("featureGates", .arr [.arr [.str "4.16.0"]])]]

/-- An object that leaves to an API of another name what it may. -/
def hybridObject : Json :=
  .obj [("metadata", .obj []), ("spec", .obj [("authoritativeAPI", .str "Hybrid")]),
    ("status", .null)]

theorem samples_have_normal_forms :
    (∃ gate again, FeatureGate.read? standardGate = some gate ∧
      NormalForm FeatureGate.read? FeatureGate.toJson gate again ∧
      FeatureGate.detailsFor? again "4.16.0" = some ⟨"4.16.0", [], []⟩ ∧
      FeatureGate.setIn? (FeatureGate.toJson gate) = some (.str "")) ∧
    (∃ version again, ClusterVersion.read? hybridObject = some version ∧
      NormalForm ClusterVersion.read? ClusterVersion.toJson version again) ∧
    (∃ machine again, Machine.read? hybridObject = some machine ∧
      NormalForm Machine.read? Machine.toJson machine again ∧
      Machine.authorityIn? (Machine.toJson machine) = some (.str "Hybrid")) ∧
    ∃ set again, MachineSet.read? hybridObject = some set ∧
      NormalForm MachineSet.read? MachineSet.toJson set again ∧
      MachineSet.authorityIn? (MachineSet.toJson set) = some (.str "Hybrid") := by
  obtain ⟨gates, versions, machines, sets⟩ := objects_have_normal_forms
  have gate_read : FeatureGate.read? standardGate = some _ := rfl
  have version_read : ClusterVersion.read? hybridObject = some _ := rfl
  have machine_read : Machine.read? hybridObject = some _ := rfl
  have set_read : MachineSet.read? hybridObject = some _ := rfl
  obtain ⟨gate, gate_normal, details, name⟩ := gates _ _ gate_read
  obtain ⟨version, version_normal, -⟩ := versions _ _ version_read
  obtain ⟨machine, machine_normal, -, -, -, authority, -⟩ := machines _ _ machine_read
  obtain ⟨set, set_normal, -, -, -, -, set_authority, -⟩ := sets _ _ set_read
  exact ⟨⟨_, gate, gate_read, gate_normal, details "4.16.0", name "Default" rfl⟩,
    ⟨_, version, version_read, version_normal⟩,
    ⟨_, machine, machine_read, machine_normal, authority "Hybrid" rfl⟩,
    ⟨_, set, set_read, set_normal, set_authority "Hybrid" rfl⟩⟩

end GatedManager.Api
