import GatedManager.Text.NameSet
import Mathlib.Data.List.Sort
import Mathlib.Data.String.Basic

/-!
# What a set of names holds

Every set that is built by inserting names ascends, and so does the union and the difference of two
sets that do. Ascending sets with the same names are equal: the list is a normal form of the set.
-/

namespace GatedManager.Text.NameSet

variable {s t : NameSet} {name : String} {names : List String}

/-- The names ascend, so each of them is there once. -/
def Ascends (s : NameSet) : Prop := s.toList.Pairwise (· < ·)

/-! ### The names of a set -/

theorem mem_insertSorted {other : String} :
    name ∈ insertSorted other names ↔ name = other ∨ name ∈ names := by
  induction names with
  | nil => simp [insertSorted]
  | cons first rest ih =>
      simp only [insertSorted]
      split
      · next same => simp [same]
      split
      · exact List.mem_cons
      · rw [List.mem_cons, ih, List.mem_cons]
        exact or_left_comm

theorem mem_toList_foldl_insert :
    name ∈ (names.foldl insert s).toList ↔ name ∈ s.toList ∨ name ∈ names := by
  induction names generalizing s with
  | nil => simp
  | cons first rest ih =>
      rw [List.foldl_cons, ih, List.mem_cons]
      change name ∈ insertSorted first s.toList ∨ _ ↔ _
      rw [mem_insertSorted, or_comm (a := name = first), or_assoc]

@[simp] theorem contains_iff : s.contains name ↔ name ∈ s.toList := by
  simp [contains]

@[simp] theorem mem_ofList : name ∈ (ofList names).toList ↔ name ∈ names := by
  simp [ofList, mem_toList_foldl_insert, empty]

@[simp] theorem mem_union : name ∈ (s.union t).toList ↔ name ∈ s.toList ∨ name ∈ t.toList :=
  mem_toList_foldl_insert

@[simp] theorem mem_diff : name ∈ (s.diff t).toList ↔ name ∈ s.toList ∧ name ∉ t.toList := by
  simp [diff, contains]

/-! ### Ascending sets -/

theorem pairwise_insertSorted (ascends : names.Pairwise (· < ·)) :
    (insertSorted name names).Pairwise (· < ·) := by
  induction names with
  | nil => exact List.pairwise_singleton _ _
  | cons first rest ih =>
      obtain ⟨before, rest_ascends⟩ := List.pairwise_cons.1 ascends
      simp only [insertSorted]
      split
      · exact ascends
      split
      · next less =>
        refine List.pairwise_cons.2 ⟨?_, ascends⟩
        intro other h
        rcases List.mem_cons.1 h with rfl | h
        · exact less
        · exact lt_trans less (before other h)
      · next different not_less =>
        refine List.pairwise_cons.2 ⟨?_, ih rest_ascends⟩
        intro other h
        rcases mem_insertSorted.1 h with rfl | h
        · exact lt_of_le_of_ne (not_lt.1 not_less) (Ne.symm different)
        · exact before other h

theorem Ascends.foldl_insert (h : s.Ascends) : (names.foldl insert s).Ascends := by
  induction names generalizing s with
  | nil => exact h
  | cons first rest ih => exact ih (pairwise_insertSorted h)

theorem ascends_ofList : (ofList names).Ascends :=
  Ascends.foldl_insert List.Pairwise.nil

theorem Ascends.union (h : s.Ascends) : (s.union t).Ascends := h.foldl_insert

theorem Ascends.diff (h : s.Ascends) : (s.diff t).Ascends := List.Pairwise.filter _ h

/-- Ascending sets with the same names are equal. -/
theorem Ascends.ext (hs : s.Ascends) (ht : t.Ascends)
    (same : ∀ name, name ∈ s.toList ↔ name ∈ t.toList) : s = t := by
  have lists : s.toList = t.toList := List.Pairwise.eq_of_mem_iff hs ht same
  cases s
  cases t
  exact congrArg NameSet.mk lists

theorem Ascends.eq_iff (hs : s.Ascends) (ht : t.Ascends) :
    s = t ↔ ∀ name, s.contains name = t.contains name := by
  constructor
  · rintro rfl name
    rfl
  · intro same
    refine hs.ext ht fun name => ?_
    rw [← contains_iff, ← contains_iff, same name]

/-- Taking away the names of `s` that are not in `t` and adding those of `t` that are not in `s`
turns `s` into `t`. -/
theorem Ascends.patch (hs : s.Ascends) (ht : t.Ascends) :
    (s.diff (s.diff t)).union (t.diff s) = t := by
  refine Ascends.ext hs.diff.union ht fun name => ?_
  simp only [mem_union, mem_diff]
  tauto

end GatedManager.Text.NameSet
