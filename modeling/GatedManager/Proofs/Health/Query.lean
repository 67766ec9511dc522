import GatedManager.Health.Checks
import GatedManager.Proofs.Text.NameSet
import GatedManager.Proofs.Text.Split
import Mathlib.Data.List.Induction

/-!
# What a query asks for

A query is read part by part, and what it asks for can be said without the reader: a name is
excluded when a part excludes it by name, and the answer is verbose when the last part that decides
this turns it on.
-/

namespace GatedManager.Health

/-- The parts of a query, which `&` separates. -/
def parts (query : Option (List Char)) : List (List Char) := Text.splitOn '&' (query.getD [])

/-- Whether a part of a query excludes a name, which is taken as it is written. -/
def Excludes (part : List Char) (name : String) : Prop :=
  name ≠ "" ∧ part = "exclude=".toList ++ name.toList

instance (part : List Char) (name : String) : Decidable (Excludes part name) :=
  inferInstanceAs (Decidable (_ ∧ _))

/-- Whether any part of a query excludes a name. -/
def LeavesOut (query : Option (List Char)) (name : String) : Prop :=
  ∃ part ∈ parts query, Excludes part name

instance (query : Option (List Char)) (name : String) : Decidable (LeavesOut query name) :=
  inferInstanceAs (Decidable (∃ part ∈ _, _))

/-- Whether a part of a query decides how verbose the answer is. -/
def setsVerbose (part : List Char) : Bool :=
  part = "verbose".toList ∨ "verbose=".toList <+: part

/-- The last part that decides it turns verbosity on. -/
def AsksVerbose (parts : List (List Char)) : Prop :=
  ∃ part ∈ (parts.filter setsVerbose).getLast?,
    part ≠ "verbose=false".toList ∧ part ≠ "verbose=0".toList

theorem Excludes.unique {part : List Char} {name other : String} (h : Excludes part name)
    (h' : Excludes part other) : name = other :=
  String.toList_inj.1 (List.append_cancel_left (h.2.symm.trans h'.2))

namespace Query

variable {part key value : List Char} {query : Query} {name : String} {parts : List (List Char)}

/-! ### One part -/

/-- A part is a key, or a key and a value after the first `=`. -/
theorem parameter_eq_iff (free : '=' ∉ key) :
    parameter part = (key, value) ↔ part = key ∧ value = [] ∨ part = key ++ '=' :: value := by
  constructor
  · intro h
    rw [parameter] at h
    cases split : Text.splitFirst '=' part with
    | none =>
        rw [split] at h
        cases h
        exact .inl ⟨rfl, rfl⟩
    | some pair =>
        rw [split] at h
        cases h
        exact .inr (Text.splitFirst_eq_some_iff.1 split).2
  · rintro (⟨rfl, rfl⟩ | rfl)
    · rw [parameter, Text.splitFirst_eq_none free, Option.getD_none]
    · rw [parameter, Text.splitFirst_append free, Option.getD_some]

theorem setsVerbose_iff : setsVerbose part ↔ (parameter part).1 = "verbose".toList := by
  have free : '=' ∉ "verbose".toList := by decide
  have keyed : (parameter part).1 = "verbose".toList ↔
      ∃ value, parameter part = ("verbose".toList, value) := by
    simp [Prod.ext_iff]
  rw [keyed, setsVerbose, decide_eq_true_iff]
  simp only [parameter_eq_iff free, exists_or, exists_and_left, exists_eq, and_true]
  refine or_congr_right ⟨?_, ?_⟩
  · rintro ⟨value, rfl⟩
    exact ⟨value, rfl⟩
  · rintro ⟨value, rfl⟩
    exact ⟨value, rfl⟩

theorem parameter_eq_iff_of_ne_nil (free : '=' ∉ key) (ne_nil : value ≠ []) :
    parameter part = (key, value) ↔ part = key ++ '=' :: value := by
  rw [parameter_eq_iff free, or_iff_right]
  exact fun ⟨_, empty⟩ => ne_nil empty

theorem excludes_iff : Excludes part name ↔
    parameter part = ("exclude".toList, name.toList) ∧ name.toList ≠ [] := by
  rw [Excludes, and_comm, ne_eq, ← String.toList_eq_nil_iff]
  refine and_congr_left fun ne_nil => ?_
  rw [parameter_eq_iff_of_ne_nil (by decide) ne_nil]
  rfl

theorem verbose_take : (query.take part).verbose =
    if setsVerbose part then decide (part ≠ "verbose=false".toList ∧ part ≠ "verbose=0".toList)
    else query.verbose := by
  have off : ∀ value : List Char, value ≠ [] →
      (part = "verbose".toList ++ '=' :: value ↔ parameter part = ("verbose".toList, value)) :=
    fun value ne_nil => (parameter_eq_iff_of_ne_nil (by decide) ne_nil).symm
  have off_false : part = "verbose=false".toList ↔ _ := off "false".toList (by decide)
  have off_zero : part = "verbose=0".toList ↔ _ := off "0".toList (by decide)
  simp only [ne_eq, off_false, off_zero, setsVerbose_iff, take]
  split
  · next decides => simp [Prod.ext_iff, decides]
  split <;> rfl

theorem insertName_eq (names : List String) :
    insertName name names = Text.NameSet.insertSorted name names := by
  induction names with
  | nil => rfl
  | cons first rest ih => rw [insertName, ih, Text.NameSet.insertSorted]

/-- A part puts the name that it excludes in its place, if there is one. -/
theorem excluded_take (query : Query) (part : List Char) :
    (∃ name, Excludes part name ∧
      (query.take part).excluded = Text.NameSet.insertSorted name query.excluded) ∨
    (∀ name, ¬Excludes part name) ∧ (query.take part).excluded = query.excluded := by
  simp only [excludes_iff]
  rcases found : parameter part with ⟨key, value⟩
  simp only [take, found, Prod.mk.injEq]
  split
  · next decides =>
    refine .inr ⟨?_, rfl⟩
    rintro name ⟨⟨excludes, -⟩, -⟩
    exact absurd (decides.symm.trans excludes) (by decide)
  split
  · next excludes =>
    obtain ⟨rfl, some_value⟩ := excludes
    refine .inl ⟨String.ofList value, ⟨⟨rfl, String.toList_ofList.symm⟩, ?_⟩, insertName_eq _⟩
    simpa using some_value
  · next other =>
    refine .inr ⟨?_, rfl⟩
    rintro name ⟨⟨rfl, rfl⟩, ne_nil⟩
    exact other ⟨rfl, by simpa using ne_nil⟩

theorem mem_excluded_take :
    name ∈ (query.take part).excluded ↔ name ∈ query.excluded ∨ Excludes part name := by
  rcases excluded_take query part with ⟨other, excludes, taken⟩ | ⟨none, same⟩
  · rw [taken, Text.NameSet.mem_insertSorted, or_comm]
    refine or_congr_right ⟨?_, fun h => h.unique excludes⟩
    rintro rfl
    exact excludes
  · rw [same]
    exact (or_iff_left (none name)).symm

theorem pairwise_excluded_take (ascends : query.excluded.Pairwise (· < ·)) :
    (query.take part).excluded.Pairwise (· < ·) := by
  rcases excluded_take query part with ⟨name, -, taken⟩ | ⟨-, same⟩
  · rw [taken]
    exact Text.NameSet.pairwise_insertSorted ascends
  · rwa [same]

/-! ### All parts -/

theorem mem_excluded_foldl : name ∈ (parts.foldl take query).excluded ↔
    name ∈ query.excluded ∨ ∃ part ∈ parts, Excludes part name := by
  induction parts generalizing query with
  | nil => simp
  | cons part parts ih =>
      rw [List.foldl_cons, ih, mem_excluded_take, or_assoc]
      simp only [List.mem_cons, exists_eq_or_imp]

theorem pairwise_excluded_foldl (ascends : query.excluded.Pairwise (· < ·)) :
    (parts.foldl take query).excluded.Pairwise (· < ·) := by
  induction parts generalizing query with
  | nil => exact ascends
  | cons part parts ih => exact ih (pairwise_excluded_take ascends)

theorem verbose_foldl : (parts.foldl take {}).verbose ↔ AsksVerbose parts := by
  induction parts using List.reverseRecOn with
  | nil => simp [AsksVerbose]
  | append_singleton parts part ih =>
      rw [List.foldl_concat, verbose_take, AsksVerbose, List.filter_append]
      split
      · next decides =>
        rw [List.filter_cons_of_pos decides, List.filter_nil, List.getLast?_concat,
          decide_eq_true_iff]
        simp only [Option.mem_def, Option.some.injEq, exists_eq_left']
      · next other =>
        rw [List.filter_cons_of_neg other, List.filter_nil, List.append_nil]
        exact ih

variable {query : Option (List Char)}

/-- The names that a query leaves out are those that its parts exclude. -/
theorem mem_excluded_read : name ∈ (read query).excluded ↔ LeavesOut query name := by
  rw [read, mem_excluded_foldl]
  exact or_iff_right List.not_mem_nil

theorem pairwise_excluded_read : (read query).excluded.Pairwise (· < ·) :=
  pairwise_excluded_foldl List.Pairwise.nil

theorem verbose_read : (read query).verbose ↔ AsksVerbose (Health.parts query) := verbose_foldl

end Query

/-! ### Exclusions -/

variable {query : Option (List Char)} {name : String} {texts : List (List Char)}

/-- No part has `&` in it, so no name with one is left out. -/
theorem LeavesOut.ampersand_notMem (h : LeavesOut query name) : '&' ∉ name.toList := by
  obtain ⟨part, found, -, rfl⟩ := h
  exact fun mem => Text.notMem_of_mem_splitOn found (List.mem_append_right _ mem)

/-- A query that is put together from parameters excludes what these exclude. -/
theorem leavesOut_intercalate : LeavesOut (some (List.intercalate ['&'] texts)) name ↔
    ∃ text ∈ texts, ∃ part ∈ Text.splitOn '&' text, Excludes part name := by
  rw [LeavesOut, parts, Option.getD_some]
  cases texts with
  | nil =>
      have excludes_nothing : ¬Excludes [] name := fun h => nomatch h.2
      simp [Text.splitOn, excludes_nothing]
  | cons first rest =>
      rw [Text.splitOn_intercalate (List.cons_ne_nil first rest)]
      constructor
      · rintro ⟨part, found, excludes⟩
        obtain ⟨text, given, found⟩ := List.mem_flatMap.1 found
        exact ⟨text, given, part, found, excludes⟩
      · rintro ⟨text, given, part, found, excludes⟩
        exact ⟨part, List.mem_flatMap.2 ⟨text, given, found⟩, excludes⟩

end GatedManager.Health
