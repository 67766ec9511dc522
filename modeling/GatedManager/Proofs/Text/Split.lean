import GatedManager.Text.Split
import Mathlib.Data.List.TakeWhile

/-!
# What splitting finds

A text is split at the first or the last occurrence of a character exactly when it consists of the
two parts with the character between them, and the part before the first or after the last one is
free of it. The parts between all occurrences are those of the library's `List.splitOn`, and none
of them has the character.
-/

namespace GatedManager.Text

variable {c : Char} {p : Char → Bool} {s t before after part rest : List Char}

/-! ### Up to a character of another kind -/

theorem takeWhile_append (all : ∀ c ∈ s, p c) (stop : ∀ c ∈ rest.head?, p c = false) :
    (s ++ rest).takeWhile p = s := by
  rw [List.takeWhile_append_of_pos all]
  cases rest with
  | nil => simp
  | cons c rest => simp [stop c rfl]

theorem dropWhile_append (all : ∀ c ∈ s, p c) (stop : ∀ c ∈ rest.head?, p c = false) :
    (s ++ rest).dropWhile p = rest := by
  rw [List.dropWhile_append_of_pos all]
  cases rest with
  | nil => simp
  | cons c rest => simp [stop c rfl]

/-! ### The first and the last occurrence -/

theorem splitFirst_append (free : c ∉ before) :
    splitFirst c (before ++ c :: after) = some (before, after) := by
  have other : ∀ d ∈ before, (d != c) = true := by
    intro d hd
    exact bne_iff_ne.2 fun same => free (same ▸ hd)
  simp [splitFirst, List.dropWhile_append_of_pos other, List.takeWhile_append_of_pos other]

theorem splitFirst_eq_none (free : c ∉ s) : splitFirst c s = none := by
  have all : s.dropWhile (· != c) = [] :=
    List.dropWhile_eq_nil_iff.2 fun d hd => bne_iff_ne.2 fun same => free (same ▸ hd)
  simp [splitFirst, all]

theorem splitFirst_eq_some_iff :
    splitFirst c s = some (before, after) ↔ c ∉ before ∧ s = before ++ c :: after := by
  constructor
  · intro h
    by_cases found : c ∈ s
    · obtain ⟨first, rest, rfl, free⟩ := List.eq_append_cons_of_mem found
      rw [splitFirst_append free] at h
      cases h
      exact ⟨free, rfl⟩
    · rw [splitFirst_eq_none found] at h
      cases h
  · rintro ⟨free, rfl⟩
    exact splitFirst_append free

theorem splitLast_eq_some_iff :
    splitLast c s = some (before, after) ↔ c ∉ after ∧ s = before ++ c :: after := by
  simp only [splitLast, Option.map_eq_some_iff, Prod.exists, splitFirst_eq_some_iff,
    Prod.mk.injEq]
  constructor
  · rintro ⟨last, first, ⟨free, reversed⟩, rfl, rfl⟩
    refine ⟨by simpa using free, ?_⟩
    rw [← s.reverse_reverse, reversed]
    simp
  · rintro ⟨free, rfl⟩
    exact ⟨after.reverse, before.reverse, by simpa using free, by simp⟩

theorem splitLast_append (free : c ∉ after) :
    splitLast c (before ++ c :: after) = some (before, after) :=
  splitLast_eq_some_iff.2 ⟨free, rfl⟩

/-- There is one last occurrence. -/
theorem eq_of_append_eq {before' after' : List Char} (free : c ∉ after) (free' : c ∉ after')
    (h : before ++ c :: after = before' ++ c :: after') : before = before' ∧ after = after' := by
  have same : splitLast c (before ++ c :: after) = some (before, after) := splitLast_append free
  rw [h, splitLast_append free'] at same
  cases same
  exact ⟨rfl, rfl⟩

/-! ### All occurrences -/

theorem splitOn_eq (c : Char) (s : List Char) : splitOn c s = s.splitOn c := by
  induction s with
  | nil => rfl
  | cons d s ih =>
      rw [splitOn, ih, List.splitOn_cons_eq_if_modifyHead]
      cases parts : s.splitOn c with
      | nil => exact absurd parts (List.splitOn_ne_nil c s)
      | cons part parts => simp only [beq_iff_eq, List.modifyHead_cons]

theorem splitOn_append : splitOn c (s ++ c :: t) = splitOn c s ++ splitOn c t := by
  simp only [splitOn_eq, List.splitOn_append_cons_self]

theorem splitOn_of_notMem (free : c ∉ s) : splitOn c s = [s] := by
  rw [splitOn_eq, List.splitOn_eq_singleton free]

theorem notMem_of_mem_splitOn (h : part ∈ splitOn c s) : c ∉ part := by
  induction s generalizing part with
  | nil =>
      obtain rfl := List.mem_singleton.1 h
      exact List.not_mem_nil
  | cons d s ih =>
      rw [splitOn_eq, List.splitOn_cons_eq_if_modifyHead, ← splitOn_eq] at h
      split at h
      · rcases List.mem_cons.1 h with rfl | h
        · exact List.not_mem_nil
        · exact ih h
      · next other =>
        cases parts : splitOn c s with
        | nil => simp [parts] at h
        | cons first rest =>
            rw [parts] at h ih
            rcases List.mem_cons.1 h with rfl | h
            · have different : c ≠ d := fun same => other (beq_iff_eq.2 same.symm)
              exact List.not_mem_cons_of_ne_of_not_mem different (ih List.mem_cons_self)
            · exact ih (List.mem_cons_of_mem _ h)

/-- The parts of several texts with the character between them. -/
theorem splitOn_intercalate {texts : List (List Char)} (h : texts ≠ []) :
    splitOn c (List.intercalate [c] texts) = texts.flatMap (splitOn c) := by
  induction texts with
  | nil => exact absurd rfl h
  | cons first rest ih =>
      cases rest with
      | nil => simp
      | cons second rest =>
          rw [List.intercalate_cons_cons, List.append_assoc, List.singleton_append,
            splitOn_append, ih (List.cons_ne_nil _ _), ← List.flatMap_cons]

theorem intercalate_cons (part : List Char) (parts : List (List Char)) :
    List.intercalate [c] (part :: parts) = part ++ parts.flatMap (c :: ·) := by
  induction parts generalizing part with
  | nil => simp
  | cons second parts ih =>
      rw [List.intercalate_cons_cons, ih, List.flatMap_cons, List.append_assoc]
      rfl

/-- Parts that are free of a character are found between its occurrences. -/
theorem splitOn_eq_cons_iff {parts : List (List Char)} (free : ∀ p ∈ part :: parts, c ∉ p) :
    splitOn c s = part :: parts ↔ s = part ++ parts.flatMap (c :: ·) := by
  rw [splitOn_eq, ← intercalate_cons]
  constructor
  · intro split
    rw [← split, List.intercalate_splitOn]
  · rintro rfl
    exact List.splitOn_intercalate c free (List.cons_ne_nil part parts)

end GatedManager.Text
