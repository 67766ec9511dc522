import GatedManager.Text.Blank
import Mathlib.Data.List.TakeWhile

/-!
# Trimming

Trimming takes away the blanks around a text and nothing else: a text that neither starts nor ends
with a blank is what is left of it between any blanks. Digits are no blanks.
-/

namespace GatedManager.Text

variable {c : Char} {s left right rest : List Char}

theorem isBlank_of_isDigit (h : c.isDigit) : isBlank c = false := by
  have range : 48 ≤ c.toNat ∧ c.toNat ≤ 57 := by
    simpa [Char.isDigit, UInt32.le_iff_toNat_le] using h
  simp only [isBlank, inRanges, blankRanges, List.any_cons, List.any_nil,
    Bool.or_eq_false_iff, Bool.and_eq_false_iff, decide_eq_false_iff_not, and_true]
  omega

theorem trimLeft_cons (h : isBlank c = false) : trimLeft (c :: rest) = c :: rest := by
  simp [trimLeft, h]

theorem trimLeft_eq_self (first : ∀ c ∈ s.head?, isBlank c = false) : trimLeft s = s := by
  cases s with
  | nil => rfl
  | cons c s => exact trimLeft_cons (first c rfl)

theorem trimLeft_append (blank : ∀ c ∈ left, isBlank c) : trimLeft (left ++ s) = trimLeft s :=
  List.dropWhile_append_of_pos blank

theorem mem_of_mem_trimChars (h : c ∈ trimChars s) : c ∈ s := by
  have kept := (List.dropWhile_sublist isBlank).mem (List.mem_reverse.1 h)
  exact (List.dropWhile_sublist isBlank).mem (List.mem_reverse.1 kept)

/-- What stands between blanks is left when it has none at its own ends. -/
theorem trimChars_between (blank_left : ∀ c ∈ left, isBlank c)
    (blank_right : ∀ c ∈ right, isBlank c) (first : ∀ c ∈ s.head?, isBlank c = false)
    (last : ∀ c ∈ s.getLast?, isBlank c = false) : trimChars (left ++ s ++ right) = s := by
  have reversed : trimLeft s.reverse = s.reverse := by
    refine trimLeft_eq_self fun c hc => last c ?_
    rwa [List.head?_reverse] at hc
  cases s with
  | nil =>
      have all : trimLeft (left ++ [] ++ right) = [] := by
        rw [List.append_nil, trimLeft_append blank_left]
        exact List.dropWhile_eq_nil_iff.2 blank_right
      rw [trimChars, all]
      rfl
  | cons c s =>
      have onward : trimLeft (left ++ (c :: s) ++ right) = c :: s ++ right := by
        rw [List.append_assoc, trimLeft_append blank_left, List.cons_append,
          trimLeft_cons (first c rfl)]
      have blank_reversed : ∀ d ∈ right.reverse, isBlank d := by
        intro d hd
        exact blank_right d (List.mem_reverse.1 hd)
      rw [trimChars, onward, List.reverse_append, trimLeft_append blank_reversed, reversed,
        List.reverse_reverse]

end GatedManager.Text
