import GatedManager.Api.ClusterVersion
import GatedManager.Api.FeatureGate
import GatedManager.Proofs.Api.Fields

/-!
# The configuration of a cluster read back

The specs and the statuses of feature gates and of cluster versions keep everything through being
written and read again: a field that was left out is written with its default, `Default` is written
as the empty name, and each time has as many decimals as it needs.
-/

namespace GatedManager.Api

open Json (str?)

theorem rewrites_strs : Rewrites (Json.list? str?) (fun texts => .arr (texts.map .str)) id :=
  rewrites_str.list_id

/-! ### Feature gates -/

/-- The name of a feature set comes back, except that the standard set loses its second name. -/
theorem FeatureSet.name_ofName (name : String) :
    (ofName name).name = if name = "Default" then "" else name := by
  unfold ofName
  split_ifs <;> simp_all [FeatureSet.name]

theorem FeatureSet.ofName_name_ofName (name : String) : ofName (ofName name).name = ofName name := by
  rw [name_ofName]
  split_ifs with standard
  · rw [standard]
    rfl
  · rfl

theorem FeatureSet.rewrites :
    Rewrites (fun j => (str? j).map ofName) (fun set => .str set.name) id :=
  rewrites_named ofName_name_ofName

theorem CustomGates.rewrites : Rewrites read? toJson id := by
  refine rewrites_record (by decide) (fun _ => rfl) fun values gates h => ?_
  split at h
  · simp only [Option.bind_eq_bind, Option.bind_eq_some_iff] at h
    obtain ⟨enabled, enabled_eq, disabled, disabled_eq, h⟩ := h
    obtain rfl := Option.some.inj h
    simp [rewrites_strs.defaulted rfl _ _ enabled_eq, rewrites_strs.defaulted rfl _ _ disabled_eq]
  · cases h

theorem FeatureGateSpec.rewrites : Rewrites read? toJson id := by
  refine rewrites_record (by decide) (fun _ => rfl) fun values spec h => ?_
  split at h
  · simp only [Option.bind_eq_bind, Option.bind_eq_some_iff] at h
    obtain ⟨set, set_eq, custom, custom_eq, h⟩ := h
    obtain rfl := Option.some.inj h
    simp [FeatureSet.rewrites.defaulted rfl _ _ set_eq,
      CustomGates.rewrites.optional_id _ _ custom_eq]
  · cases h

theorem rewrites_gateName : Rewrites gateName? ofGateName id := by
  refine rewrites_record (by decide) (fun _ => rfl) fun values name h => ?_
  split at h
  · rfl
  · cases h

theorem GateDetails.rewrites : Rewrites read? toJson id := by
  refine rewrites_record (by decide) (fun _ => rfl) fun values details h => ?_
  split at h
  · simp only [Option.bind_eq_bind, Option.bind_eq_some_iff] at h
    obtain ⟨version, version_eq, enabled, enabled_eq, disabled, disabled_eq, h⟩ := h
    obtain rfl := Option.some.inj h
    simp [rewrites_str.required _ _ version_eq,
      rewrites_gateName.list_id.defaulted rfl _ _ enabled_eq,
      rewrites_gateName.list_id.defaulted rfl _ _ disabled_eq]
  · cases h

theorem FeatureGateStatus.rewrites : Rewrites read? toJson id := by
  refine rewrites_record (by decide) (fun _ => rfl) fun values status h => ?_
  split at h
  · simp only [Option.bind_eq_bind, Option.bind_eq_some_iff] at h
    obtain ⟨gates, gates_eq, h⟩ := h
    obtain rfl := Option.some.inj h
    simp [GateDetails.rewrites.list_id.defaulted rfl _ _ gates_eq]
  · cases h

/-! ### Cluster versions -/

theorem Release.rewrites : Rewrites read? toJson id := by
  refine rewrites_record (by decide) (fun _ => rfl) fun values release h => ?_
  split at h
  · simp only [Option.bind_eq_bind, Option.bind_eq_some_iff] at h
    obtain ⟨version, version_eq, image, image_eq, h⟩ := h
    obtain rfl := Option.some.inj h
    simp [rewrites_str.defaulted rfl _ _ version_eq, rewrites_str.defaulted rfl _ _ image_eq]
  · cases h

theorem ClusterVersionSpec.rewrites : Rewrites read? toJson id := by
  refine rewrites_record (by decide) (fun _ => rfl) fun values spec h => ?_
  split at h
  · simp only [Option.bind_eq_bind, Option.bind_eq_some_iff] at h
    obtain ⟨cluster, cluster_eq, channel, channel_eq, update, update_eq, h⟩ := h
    obtain rfl := Option.some.inj h
    simp [rewrites_str.defaulted rfl _ _ cluster_eq, rewrites_str.optional_id _ _ channel_eq,
      Release.rewrites.optional_id _ _ update_eq]
  · cases h

theorem rewrites_exactTime : Rewrites time? (ofTime .exact) id := by
  have same : (fun t : Timestamp => t.cut .exact) = id := funext Timestamp.cut_exact
  exact same ▸ rewrites_time .exact

theorem UpdateHistory.rewrites : Rewrites read? toJson id := by
  refine rewrites_record (by decide) (fun _ => rfl) fun values entry h => ?_
  split at h
  · simp only [Option.bind_eq_bind, Option.bind_eq_some_iff] at h
    obtain ⟨state, state_eq, version, version_eq, image, image_eq, started, started_eq, completed,
      completed_eq, h⟩ := h
    obtain rfl := Option.some.inj h
    simp [rewrites_str.defaulted rfl _ _ state_eq, rewrites_str.defaulted rfl _ _ version_eq,
      rewrites_str.defaulted rfl _ _ image_eq, rewrites_exactTime.optional_id _ _ started_eq,
      rewrites_exactTime.optional_id _ _ completed_eq]
  · cases h

theorem ClusterVersionStatus.rewrites : Rewrites read? toJson id := by
  refine rewrites_record (by decide) (fun _ => rfl) fun values status h => ?_
  split at h
  · simp only [Option.bind_eq_bind, Option.bind_eq_some_iff] at h
    obtain ⟨desired, desired_eq, history, history_eq, h⟩ := h
    obtain rfl := Option.some.inj h
    simp [Release.rewrites.defaulted rfl _ _ desired_eq,
      UpdateHistory.rewrites.list_id.defaulted rfl _ _ history_eq]
  · cases h

end GatedManager.Api
