import Mathlib.Data.List.Forall2

/-!
# Lists of results

A function that may fail is applied to each item of a list, in order. Either every item has its
result, or the first item that fails decides.
-/

namespace GatedManager

variable {α β ε : Type} {f : α → Except ε β} {item : α} {items : List α} {fault : ε}

theorem mapM_cons_of_ok {result : β} (first : f item = .ok result) :
    (item :: items).mapM f = (items.mapM f).map (result :: ·) := by
  rw [List.mapM_cons, first]
  cases items.mapM f <;> rfl

theorem mapM_cons_of_error (first : f item = .error fault) :
    (item :: items).mapM f = .error fault := by
  rw [List.mapM_cons, first]
  rfl

theorem mapM_eq_ok_iff {results : List β} :
    items.mapM f = .ok results ↔
      List.Forall₂ (fun item result => f item = .ok result) items results := by
  constructor
  · intro h
    induction items generalizing results with
    | nil =>
        cases h
        exact .nil
    | cons item items ih =>
        cases first : f item with
        | error fault => cases h.symm.trans (mapM_cons_of_error first)
        | ok result =>
            rw [mapM_cons_of_ok first] at h
            cases others : items.mapM f with
            | error fault =>
                rw [others] at h
                cases h
            | ok rest =>
                rw [others] at h
                cases h
                exact .cons first (ih others)
  · intro pairs
    induction pairs with
    | nil => rfl
    | cons first _ ih =>
        rw [mapM_cons_of_ok first, ih]
        rfl

theorem mapM_eq_error_iff :
    items.mapM f = .error fault ↔
      ∃ before item after, items = before ++ item :: after ∧
        (∀ other ∈ before, ∃ result, f other = .ok result) ∧ f item = .error fault := by
  constructor
  · intro h
    induction items with
    | nil => cases h
    | cons item items ih =>
        cases first : f item with
        | error fault' =>
            cases h.symm.trans (mapM_cons_of_error first)
            exact ⟨[], item, items, rfl, List.forall_mem_nil _, first⟩
        | ok result =>
            rw [mapM_cons_of_ok first] at h
            cases others : items.mapM f with
            | ok rest =>
                rw [others] at h
                cases h
            | error fault' =>
                rw [others] at h
                cases h
                obtain ⟨before, faulty, after, rfl, fine, fails⟩ := ih others
                exact ⟨item :: before, faulty, after, rfl,
                  List.forall_mem_cons.2 ⟨⟨result, first⟩, fine⟩, fails⟩
  · rintro ⟨before, item, after, rfl, fine, fails⟩
    induction before with
    | nil => exact mapM_cons_of_error fails
    | cons other before ih =>
        obtain ⟨⟨result, first⟩, fine⟩ := List.forall_mem_cons.1 fine
        rw [List.cons_append, mapM_cons_of_ok first, ih fine]
        rfl

end GatedManager
