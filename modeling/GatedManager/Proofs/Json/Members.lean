import GatedManager.Json.Reader
import GatedManager.Json.Record
import Mathlib.Data.String.Basic

/-!
# Members of objects

An object is a list of members of which the last one of a name counts. Where the names ascend there
is only one of each name, and setting a member changes no other one. An object that is written from
fields with different names shows each of its fields again.
-/

namespace GatedManager.Json

variable {name other : String} {value : Json} {members : List (String × Json)}

theorem member?_cons (m : String × Json) :
    member? name (m :: members) =
      (member? name members).or (if m.1 = name then some m.2 else none) := by
  have general : ∀ (members : List (String × Json)) (found : Option Json),
      members.foldl (fun found m => if m.1 = name then some m.2 else found) found =
        (member? name members).or found := by
    intro members
    induction members with
    | nil => exact fun found => rfl
    | cons m members ih =>
        intro found
        rw [member?, List.foldl_cons, List.foldl_cons, ih, ih, Option.or_assoc]
        split <;> simp
  exact general members _

theorem member?_eq_none (absent : ∀ m ∈ members, m.1 ≠ name) : member? name members = none := by
  induction members with
  | nil => rfl
  | cons m members ih =>
      rw [member?_cons, ih fun m hm => absent m (List.mem_cons_of_mem _ hm),
        if_neg (absent m List.mem_cons_self)]
      rfl

/-- The names of the members ascend, as in every object that was read from a text. -/
def Ascending (members : List (String × Json)) : Prop :=
  members.Pairwise fun a b => a.1 < b.1

theorem mem_insertMember {m : String × Json} (h : m ∈ insertMember name value members) :
    m = (name, value) ∨ m ∈ members := by
  induction members with
  | nil => exact .inl (List.mem_singleton.1 h)
  | cons n members ih =>
      simp only [insertMember] at h
      split at h
      · rcases List.mem_cons.1 h with h | h
        · exact .inl h
        · exact .inr (List.mem_cons_of_mem _ h)
      split at h
      · exact List.mem_cons.1 h
      · rcases List.mem_cons.1 h with h | h
        · exact .inr (h ▸ List.mem_cons_self)
        · exact (ih h).imp_right (List.mem_cons_of_mem _)

theorem Ascending.insertMember (ascending : Ascending members) :
    Ascending (insertMember name value members) := by
  induction members with
  | nil => exact List.pairwise_singleton _ _
  | cons n members ih =>
      obtain ⟨before, rest⟩ := List.pairwise_cons.1 ascending
      simp only [Json.insertMember]
      split
      · next same =>
        subst same
        exact List.pairwise_cons.2 ⟨before, rest⟩
      split
      · next less =>
        refine List.pairwise_cons.2 ⟨?_, ascending⟩
        intro m hm
        rcases List.mem_cons.1 hm with rfl | hm
        · exact less
        · exact lt_trans less (before m hm)
      · next different not_less =>
        refine List.pairwise_cons.2 ⟨?_, ih rest⟩
        intro m hm
        rcases mem_insertMember hm with rfl | hm
        · exact lt_of_le_of_ne (not_lt.1 not_less) (Ne.symm different)
        · exact before m hm

theorem member?_insertMember_self (ascending : Ascending members) :
    member? name (insertMember name value members) = some value := by
  induction members with
  | nil => simp [insertMember, member?]
  | cons n members ih =>
      obtain ⟨before, rest⟩ := List.pairwise_cons.1 ascending
      simp only [insertMember]
      split
      · next same =>
        subst same
        rw [member?_cons, member?_eq_none fun m hm => (before m hm).ne', if_pos rfl]
        rfl
      split
      · next less =>
        have absent : ∀ m ∈ n :: members, m.1 ≠ name := by
          intro m hm
          rcases List.mem_cons.1 hm with rfl | hm
          · exact less.ne'
          · exact (lt_trans less (before m hm)).ne'
        rw [member?_cons, member?_eq_none absent, if_pos rfl]
        rfl
      · rw [member?_cons, ih rest]
        rfl

theorem member?_insertMember_of_ne (different : other ≠ name) :
    member? other (insertMember name value members) = member? other members := by
  induction members with
  | nil => simp [insertMember, member?, different.symm]
  | cons n members ih =>
      simp only [insertMember]
      split
      · next same =>
        subst same
        rw [member?_cons, member?_cons, if_neg different.symm, if_neg different.symm]
      split
      · rw [member?_cons, if_neg different.symm, Option.or_none]
      · rw [member?_cons, ih, ← member?_cons]

/-- Setting a member changes this member only. -/
theorem member?_insertMember (ascending : Ascending members) :
    member? other (insertMember name value members) =
      if other = name then some value else member? other members := by
  split
  · next same => rw [same, member?_insertMember_self ascending]
  · next different => exact member?_insertMember_of_ne different

variable {fields : List (String × Option Json)}

theorem mem_ofFields {m : String × Json}
    (h : m ∈ fields.filterMap fun (name, value?) => value?.map (name, ·)) :
    (m.1, some m.2) ∈ fields := by
  obtain ⟨⟨name, value?⟩, hf, hm⟩ := List.mem_filterMap.1 h
  obtain ⟨value, rfl, rfl⟩ := Option.map_eq_some_iff.1 hm
  exact hf

theorem ascending_ofFields (names : List String) (ascending : names.Pairwise (· < ·))
    (same : fields.map Prod.fst = names) :
    ∃ members, ofFields fields = .obj members ∧ Ascending members := by
  subst same
  refine ⟨_, rfl, List.pairwise_filterMap.2 ((List.pairwise_map.1 ascending).imp ?_)⟩
  intro a b less m is_m n is_n
  obtain ⟨_, _, rfl⟩ := Option.map_eq_some_iff.1 is_m
  obtain ⟨_, _, rfl⟩ := Option.map_eq_some_iff.1 is_n
  exact less

theorem member?_ofFields {value? : Option Json} (distinct : (fields.map Prod.fst).Nodup)
    (h : (name, value?) ∈ fields) :
    member? name (fields.filterMap fun (name, value?) => value?.map (name, ·)) = value? := by
  induction fields with
  | nil => cases h
  | cons field fields ih =>
      obtain ⟨first, first?⟩ := field
      obtain ⟨fresh, rest⟩ := List.nodup_cons.1 distinct
      rcases List.mem_cons.1 h with same | later
      · obtain ⟨rfl, rfl⟩ := Prod.mk.inj same
        have absent := member?_eq_none fun m hm same =>
          fresh (List.mem_map.2 ⟨_, mem_ofFields hm, same⟩)
        cases value? with
        | none => simpa using absent
        | some value => simp [member?_cons, absent]
      · have different : first ≠ name := fun same =>
          fresh (List.mem_map.2 ⟨_, later, same.symm⟩)
        cases first? with
        | none => simpa using ih rest later
        | some value => simp [member?_cons, ih rest later, different]

/-- Some of the fields, in whatever order they are asked for. -/
theorem objectFields?_ofFields_of_subset (asked : List (String × Option Json))
    (distinct : (fields.map Prod.fst).Nodup) (subset : asked ⊆ fields) :
    objectFields? (asked.map Prod.fst) (ofFields fields) = some (asked.map Prod.snd) := by
  simp only [objectFields?, ofFields, Option.some.injEq, List.map_map]
  exact List.map_congr_left fun field hf => member?_ofFields distinct (subset hf)

theorem objectFields?_ofFields (names : List String) (distinct : names.Nodup)
    (same : fields.map Prod.fst = names) :
    objectFields? names (ofFields fields) = some (fields.map Prod.snd) := by
  subst same
  exact objectFields?_ofFields_of_subset fields distinct (List.Subset.refl _)

/-! ### The fields of a record by name -/

/-- The value of a field of a record, whether it is written as an object or as an array. -/
def field? (names : List String) (name : String) : Json → Option Json
  | .obj members => member? name members
  | .arr items => items[names.idxOf name]?
  | _ => none

/-- The values that a record is read from are those of its fields. -/
theorem eq_map_field?_of_recordFields? {names : List String} {j : Json}
    {values : List (Option Json)} (distinct : names.Nodup)
    (h : recordFields? names j = some values) : values = names.map (field? names · j) := by
  cases j with
  | obj members =>
      obtain rfl := Option.some.inj h
      rfl
  | arr items =>
      simp only [recordFields?, Option.ite_none_right_eq_some, Option.some.injEq] at h
      obtain ⟨fits, rfl⟩ := h
      refine List.ext_getElem (by simp [fits]) fun i _ hi => ?_
      have in_names : i < names.length := by simpa using hi
      simp only [List.getElem_map, field?, distinct.idxOf_getElem i in_names]
      by_cases listed : i < items.length
      · simp [listed]
      · rw [List.getElem_append_right (by simpa using listed)]
        simp [listed]
  | _ => cases h

/-- What is made of a record is made of the values of its fields. -/
theorem of_recordFields? {names : List String} {values? : List (Option Json) → Option α} {a : α}
    {j : Json} (distinct : names.Nodup) (h : (recordFields? names j).bind values? = some a) :
    values? (names.map (field? names · j)) = some a := by
  obtain ⟨values, fields, h⟩ := Option.bind_eq_some_iff.1 h
  exact eq_map_field?_of_recordFields? distinct fields ▸ h

/-- A field that was written is found by its name. -/
theorem field?_ofFields (names : List String) {value? : Option Json}
    (distinct : (fields.map Prod.fst).Nodup) (h : (name, value?) ∈ fields) :
    field? names name (ofFields fields) = value? :=
  member?_ofFields distinct h

end GatedManager.Json
