import GatedManager.Api.MachineSet
import GatedManager.Proofs.Api.Fields

/-!
# Machines read back

The specs and the statuses of machines and of machine sets keep everything through being written
and read again. The name of the authoritative API comes back as it was, also one that is not known.
-/

namespace GatedManager.Api

open Json (defaulted optional texts?)

theorem ObjectReference.rewrites : Rewrites read? toJson id := by
  refine rewrites_record (by decide) (fun _ => rfl) fun values reference h => ?_
  split at h
  · simp only [Option.bind_eq_bind, Option.bind_eq_some_iff] at h
    obtain ⟨apiVersion, apiVersion_eq, kind, kind_eq, name, name_eq, space, space_eq, uid, uid_eq,
      h⟩ := h
    obtain rfl := Option.some.inj h
    simp [rewrites_str.optional_id _ _ apiVersion_eq, rewrites_str.optional_id _ _ kind_eq,
      rewrites_str.optional_id _ _ name_eq, rewrites_str.optional_id _ _ space_eq,
      rewrites_str.optional_id _ _ uid_eq]
  · cases h

/-- The name of an authority comes back as it was. -/
theorem MachineAuthority.name_ofName (name : String) : (ofName name).name = name := by
  unfold ofName
  split_ifs <;> simp_all [MachineAuthority.name]

theorem MachineAuthority.rewrites : Rewrites read? toJson id :=
  rewrites_named fun s => by rw [name_ofName]

/-- Texts that are left out when there are none. -/
theorem TemplateMeta.rewrites_texts? :
    RewritesField (defaulted [] texts?) ofTexts? id := by
  intro field texts h
  cases texts with
  | nil => rfl
  | cons text rest => exact rewrites_texts.defaulted rfl field _ h

theorem TemplateMeta.rewrites : Rewrites read? toJson id := by
  refine rewrites_record (by decide) (fun _ => rfl) fun values template h => ?_
  split at h
  · simp only [Option.bind_eq_bind, Option.bind_eq_some_iff] at h
    obtain ⟨labels, labels_eq, annotations, annotations_eq, h⟩ := h
    obtain rfl := Option.some.inj h
    simp [rewrites_texts? _ _ labels_eq, rewrites_texts? _ _ annotations_eq]
  · cases h

theorem ProviderSpec.rewrites : Rewrites read? toJson id := by
  refine rewrites_record (by decide) (fun _ => rfl) fun values provider h => ?_
  split at h
  · simp only [Option.bind_eq_bind, Option.bind_eq_some_iff] at h
    obtain ⟨value, value_eq, h⟩ := h
    obtain rfl := Option.some.inj h
    simp [rewrites_any _ _ value_eq]
  · cases h

theorem MachineSpec.rewrites : Rewrites read? toJson id := by
  refine rewrites_record (by decide) (fun _ => rfl) fun values spec h => ?_
  split at h
  · simp only [Option.bind_eq_bind, Option.bind_eq_some_iff] at h
    obtain ⟨template, template_eq, provider, provider_eq, providerId, providerId_eq, authority,
      authority_eq, h⟩ := h
    obtain rfl := Option.some.inj h
    simp [TemplateMeta.rewrites.optional_id _ _ template_eq,
      ProviderSpec.rewrites.defaulted rfl _ _ provider_eq,
      rewrites_str.optional_id _ _ providerId_eq,
      MachineAuthority.rewrites.optional_id _ _ authority_eq]
  · cases h

theorem MachineStatus.rewrites : Rewrites read? toJson id := by
  refine rewrites_record (by decide) (fun _ => rfl) fun values status h => ?_
  split at h
  · simp only [Option.bind_eq_bind, Option.bind_eq_some_iff] at h
    obtain ⟨nodeRef, nodeRef_eq, phase, phase_eq, message, message_eq, authority, authority_eq,
      h⟩ := h
    obtain rfl := Option.some.inj h
    simp [ObjectReference.rewrites.optional_id _ _ nodeRef_eq,
      rewrites_str.optional_id _ _ phase_eq, rewrites_str.optional_id _ _ message_eq,
      MachineAuthority.rewrites.optional_id _ _ authority_eq]
  · cases h

/-! ### Machine sets -/

theorem MachineSelector.rewrites : Rewrites read? toJson id := by
  refine rewrites_record (by decide) (fun _ => rfl) fun values selector h => ?_
  split at h
  · simp only [Option.bind_eq_bind, Option.bind_eq_some_iff] at h
    obtain ⟨matchLabels, matchLabels_eq, h⟩ := h
    obtain rfl := Option.some.inj h
    simp [rewrites_texts.defaulted rfl _ _ matchLabels_eq]
  · cases h

theorem MachineTemplate.rewrites : Rewrites read? toJson id := by
  refine rewrites_record (by decide) (fun _ => rfl) fun values template h => ?_
  split at h
  · simp only [Option.bind_eq_bind, Option.bind_eq_some_iff] at h
    obtain ⟨labels, labels_eq, spec, spec_eq, h⟩ := h
    obtain rfl := Option.some.inj h
    simp [TemplateMeta.rewrites.optional_id _ _ labels_eq,
      MachineSpec.rewrites.defaulted rfl _ _ spec_eq]
  · cases h

theorem MachineSetSpec.rewrites : Rewrites read? toJson id := by
  refine rewrites_record (by decide) (fun _ => rfl) fun values spec h => ?_
  split at h
  · simp only [Option.bind_eq_bind, Option.bind_eq_some_iff] at h
    obtain ⟨replicas, replicas_eq, selector, selector_eq, template, template_eq, authority,
      authority_eq, h⟩ := h
    obtain rfl := Option.some.inj h
    simp [rewrites_int32.optional_id _ _ replicas_eq,
      MachineSelector.rewrites.defaulted rfl _ _ selector_eq,
      MachineTemplate.rewrites.defaulted rfl _ _ template_eq,
      MachineAuthority.rewrites.optional_id _ _ authority_eq]
  · cases h

theorem MachineSetStatus.rewrites : Rewrites read? toJson id := by
  refine rewrites_record (by decide) (fun _ => rfl) fun values status h => ?_
  split at h
  · simp only [Option.bind_eq_bind, Option.bind_eq_some_iff] at h
    obtain ⟨replicas, replicas_eq, ready, ready_eq, available, available_eq, h⟩ := h
    obtain rfl := Option.some.inj h
    simp [rewrites_int32.defaulted rfl _ _ replicas_eq,
      rewrites_int32.defaulted rfl _ _ ready_eq,
      rewrites_int32.defaulted rfl _ _ available_eq]
  · cases h

end GatedManager.Api
