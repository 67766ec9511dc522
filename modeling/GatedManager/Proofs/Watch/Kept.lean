import GatedManager.Proofs.Results
import GatedManager.Watch.Wire
import Mathlib.Data.String.Basic

/-!
# What a store keeps

The store of a reflector whose collection lies in one namespace keeps its objects by their names,
each name once, whatever lists and changes have come. What the API sends brings every object under
its own key; that the objects carry the namespace is up to the API.
-/

namespace GatedManager.Watch

section

variable {α : Type}

/-- Whether an entry has an object of a namespace under its own key. -/
structure Form.Keeps (form : Form α) (namespaceName : String) (entry : ObjectKey × α) : Prop where
  keyed : form.keyed entry.2 = .ok entry
  inNamespace : entry.1.namespaceName = some namespaceName

/-- Whether a store has objects of one namespace in the order of their names. -/
structure Store.IsKept (form : Form α) (namespaceName : String) (store : Store α) : Prop where
  ascends : store.entries.Pairwise (·.1.name < ·.1.name)
  keeps : ∀ entry ∈ store.entries, form.Keeps namespaceName entry

/-- The entries that an event brings. -/
def Event.entries : Event α → List (ObjectKey × α)
  | listed key object => [(key, object)]
  | applied key object => [(key, object)]
  | _ => []

/-- The entries that an input brings. -/
def Input.entries : Input α → List (ObjectKey × α)
  | page p => p.items
  | notice (.changed key object) => [(key, object)]
  | _ => []

/-- Whether a reflector has objects of one namespace only, the ones it has set aside included. -/
structure Reflector.IsKept (form : Form α) (namespaceName : String) (r : Reflector α) : Prop where
  incoming : r.incoming.IsKept form namespaceName
  store : r.store.IsKept form namespaceName

variable {form : Form α} {namespaceName : String} {entries : List (ObjectKey × α)}
  {key : ObjectKey} {object : α}

theorem mem_putEntry {entry : ObjectKey × α} (h : entry ∈ Store.putEntry key object entries) :
    entry = (key, object) ∨ entry ∈ entries := by
  induction entries with
  | nil => exact .inl (List.mem_singleton.1 h)
  | cons first rest ih =>
      simp only [Store.putEntry] at h
      split at h
      · rcases List.mem_cons.1 h with h | h
        · exact .inl h
        · exact .inr (List.mem_cons_of_mem _ h)
      split at h
      · exact List.mem_cons.1 h
      · rcases List.mem_cons.1 h with h | h
        · exact .inr (h ▸ List.mem_cons_self)
        · exact (ih h).imp_right (List.mem_cons_of_mem _)

/-- In one namespace the names tell keys apart. -/
theorem ObjectKey.eq_iff_of_namespace {a b : ObjectKey} (same : a.namespaceName = b.namespaceName) :
    a = b ↔ a.name = b.name := by
  cases a
  cases b
  simp_all

/-- In one namespace keys are ordered by their names. -/
theorem ObjectKey.before_iff_of_namespace {a b : ObjectKey}
    (same : a.namespaceName = b.namespaceName) : a.before b ↔ a.name < b.name := by
  unfold ObjectKey.before
  rw [same]
  split
  case isTrue names =>
    rw [names]
    cases b.namespaceName <;> simp
  case isFalse => exact decide_eq_true_iff

/-- Entries of one namespace go on to ascend by their names. -/
theorem pairwise_putEntry (ascends : entries.Pairwise (·.1.name < ·.1.name))
    (together : ∀ entry ∈ entries, entry.1.namespaceName = key.namespaceName) :
    (Store.putEntry key object entries).Pairwise (·.1.name < ·.1.name) := by
  induction entries with
  | nil => exact List.pairwise_singleton _ _
  | cons first rest ih =>
      obtain ⟨before, rest_ascends⟩ := List.pairwise_cons.1 ascends
      obtain ⟨here, there⟩ := List.forall_mem_cons.1 together
      simp only [Store.putEntry]
      split
      case isTrue same =>
        exact List.pairwise_cons.2 ⟨same ▸ before, rest_ascends⟩
      case isFalse different =>
        split
        case isTrue less =>
          rw [ObjectKey.before_iff_of_namespace here.symm] at less
          refine List.pairwise_cons.2 ⟨?_, ascends⟩
          intro other h
          rcases List.mem_cons.1 h with rfl | h
          · exact less
          · exact lt_trans less (before other h)
        case isFalse not_less =>
          rw [ObjectKey.before_iff_of_namespace here.symm] at not_less
          rw [ObjectKey.eq_iff_of_namespace here.symm] at different
          refine List.pairwise_cons.2 ⟨?_, ih rest_ascends there⟩
          intro other h
          rcases mem_putEntry h with rfl | h
          · exact lt_of_le_of_ne (not_lt.1 not_less) (Ne.symm different)
          · exact before other h

namespace Store.IsKept

variable {store : Store α}

theorem empty : (Store.empty : Store α).IsKept form namespaceName := ⟨.nil, nofun⟩

theorem put (h : store.IsKept form namespaceName) (keeps : form.Keeps namespaceName (key, object)) :
    (store.put key object).IsKept form namespaceName := by
  refine ⟨pairwise_putEntry h.ascends ?_, ?_⟩
  · exact fun entry known => (h.keeps entry known).inNamespace.trans keeps.inNamespace.symm
  · intro entry is_entry
    rcases mem_putEntry is_entry with rfl | known
    · exact keeps
    · exact h.keeps entry known

theorem erase (h : store.IsKept form namespaceName) (key : ObjectKey) :
    (store.erase key).IsKept form namespaceName :=
  ⟨h.ascends.filter _, fun entry left => h.keeps entry (List.mem_of_mem_filter left)⟩

/-- A store keeps each name once. -/
theorem nodup_names (h : store.IsKept form namespaceName) :
    (store.entries.map (·.1.name)).Nodup :=
  List.pairwise_map.2 (h.ascends.imp ne_of_lt)

end Store.IsKept

/-! ### Inputs -/

theorem Reflector.IsKept.step {r : Reflector α} (h : r.IsKept form namespaceName) {event : Event α}
    (keeps : ∀ entry ∈ event.entries, form.Keeps namespaceName entry) :
    (r.step event).IsKept form namespaceName := by
  cases event with
  | restart => exact ⟨.empty, h.store⟩
  | listed key object => exact ⟨h.incoming.put (keeps _ (List.mem_singleton.2 rfl)), h.store⟩
  | complete => exact ⟨.empty, h.incoming⟩
  | applied key object => exact ⟨h.incoming, h.store.put (keeps _ (List.mem_singleton.2 rfl))⟩
  | deleted key => exact ⟨h.incoming, h.store.erase key⟩

theorem Reflector.IsKept.run {r : Reflector α} (h : r.IsKept form namespaceName)
    {events : List (Event α)}
    (keeps : ∀ event ∈ events, ∀ entry ∈ event.entries, form.Keeps namespaceName entry) :
    (r.run events).IsKept form namespaceName := by
  induction events generalizing r with
  | nil => exact h
  | cons event events ih =>
      obtain ⟨first, rest⟩ := List.forall_mem_cons.1 keeps
      exact ih (h.step first) rest

/-- The events of an input bring what the input brings. -/
theorem entries_of_react (stage : Stage) (input : Input α) :
    ∀ event ∈ (stage.react input).events, event.entries ⊆ input.entries := by
  have listed : ∀ p : Page α, ∀ event ∈ p.events, event.entries ⊆ p.items := by
    intro p event is_event
    obtain ⟨⟨key, object⟩, is_item, rfl⟩ := List.mem_map.1 is_event
    exact List.forall_mem_singleton.2 is_item
  unfold Stage.react
  split
  case h_1 => exact List.forall_mem_singleton.2 (List.nil_subset _)
  case h_2 p =>
    split
    · exact listed p
    · exact List.forall_mem_append.2 ⟨listed p, List.forall_mem_singleton.2 (List.nil_subset _)⟩
  case h_6 key object => exact List.forall_mem_singleton.2 (List.Subset.refl _)
  case h_7 key => exact List.forall_mem_singleton.2 (List.nil_subset _)
  all_goals exact fun event none => nomatch none

theorem Informer.isKept_take {i : Informer α} {input : Input α} {now : Instant}
    (h : i.reflector.IsKept form namespaceName)
    (keeps : ∀ entry ∈ input.entries, form.Keeps namespaceName entry) :
    (i.take input now).reflector.IsKept form namespaceName :=
  h.run fun event is_event _ brought => keeps _ (entries_of_react _ _ event is_event brought)

/-! ### Objects over the wire -/

theorem Form.keyed_snd {entry : ObjectKey × α} (h : form.keyed object = .ok entry) :
    form.keyed entry.2 = .ok entry := by
  unfold Form.keyed at h ⊢
  cases is_key : keyOf (form.metadata object) with
  | error crash =>
      rw [is_key] at h
      cases h
  | ok key =>
      rw [is_key] at h
      cases h
      rw [is_key]
      rfl

theorem Form.keyed_of_mapM {objects : List α} (h : objects.mapM form.keyed = .ok entries) :
    ∀ entry ∈ entries, form.keyed entry.2 = .ok entry := by
  have pairs := mapM_eq_ok_iff.1 h
  clear h
  induction pairs with
  | nil => exact nofun
  | cons keyed _ ih => exact List.forall_mem_cons.2 ⟨Form.keyed_snd keyed, ih⟩

theorem Form.keyed_of_page {items : List Json} {next : Option String} {input : Input α}
    (h : form.page items next = .ok input) :
    ∀ entry ∈ input.entries, form.keyed entry.2 = .ok entry := by
  unfold Form.page at h
  split at h
  case h_1 =>
    cases h
    exact nofun
  case h_2 objects _ =>
    cases keyed : objects.mapM form.keyed with
    | error crash =>
        rw [keyed] at h
        cases h
    | ok entries =>
        rw [keyed] at h
        cases h
        exact Form.keyed_of_mapM keyed

/-- What becomes of an object that a notice names. -/
theorem Form.noticeOf_eq_ok {j : Json} {make : ObjectKey → α → Notice α} {notice : Notice α}
    (h : form.noticeOf j make = .ok notice) :
    notice = .failed ∨ notice = .lost ∨
      ∃ object key, form.keyed object = .ok (key, object) ∧ notice = make key object := by
  unfold Form.noticeOf at h
  split at h
  case h_1 =>
    cases h
    exact .inl rfl
  case h_2 object _ =>
    split at h
    case h_1 =>
      cases h
      exact .inr (.inl rfl)
    case h_2 =>
      cases keyed : form.keyed object with
      | error crash =>
          rw [keyed] at h
          cases h
      | ok entry =>
          rw [keyed] at h
          cases h
          exact .inr (.inr ⟨entry.2, entry.1, Form.keyed_snd keyed, rfl⟩)

theorem Form.keyed_of_notice {type : String} {j : Json} {notice : Notice α}
    (h : form.notice type j = .ok notice) :
    ∀ entry ∈ (Input.notice notice).entries, form.keyed entry.2 = .ok entry := by
  have changed : form.noticeOf j .changed = .ok notice →
      ∀ entry ∈ (Input.notice notice).entries, form.keyed entry.2 = .ok entry := by
    intro h
    rcases Form.noticeOf_eq_ok h with rfl | rfl | ⟨object, key, keyed, rfl⟩
    · exact nofun
    · exact nofun
    · exact List.forall_mem_singleton.2 keyed
  unfold Form.notice at h
  split at h
  case h_1 => exact changed h
  case h_2 => exact changed h
  case h_3 =>
    rcases Form.noticeOf_eq_ok h with rfl | rfl | ⟨object, key, -, rfl⟩ <;> exact nofun
  case h_4 =>
    split at h <;> (cases h; exact nofun)
  case h_5 =>
    split at h <;> (cases h; exact nofun)
  case h_6 =>
    cases h
    exact nofun

end

end GatedManager.Watch
