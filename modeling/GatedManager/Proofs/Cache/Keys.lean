import GatedManager.Cache.Objects
import GatedManager.Proofs.Text.NameSet

/-!
# Keys of kinds

The key of a kind is a text that is put together from its version and its name. A scheme can know
two kinds with the same key, since a slash in the name of one may stand in the version of the other.
The cache keeps the stores of the last of them: a store is kept exactly when its kind is the one
under its key.
-/

namespace GatedManager

namespace ResourceKind

variable {a b : ResourceKind}

/-- Whether the name of a kind has no slash, like every name in the API. -/
def IsPlain (kind : ResourceKind) : Prop := '/' ∉ kind.kind.toList

instance (kind : ResourceKind) : Decidable kind.IsPlain := inferInstanceAs (Decidable (_ ∉ _))

/-- What stands before and after the last slash. -/
theorem eq_of_append_slash {before before' after after' : List Char} (plain : '/' ∉ after)
    (plain' : '/' ∉ after') (same : before ++ '/' :: after = before' ++ '/' :: after') :
    before = before' ∧ after = after' := by
  rcases List.append_eq_append_iff.1 same with ⟨middle, rfl, rest⟩ | ⟨middle, rfl, rest⟩
  · cases middle with
    | nil => exact ⟨by simp, by simpa using rest⟩
    | cons c middle =>
        obtain ⟨-, rfl⟩ := List.cons.inj rest
        exact absurd (by simp) plain
  · cases middle with
    | nil => exact ⟨by simp, by simpa using rest.symm⟩
    | cons c middle =>
        obtain ⟨-, rfl⟩ := List.cons.inj rest
        exact absurd (by simp) plain'

theorem key_eq_of_typeName (same : a.typeName = b.typeName) : a.key = b.key := by
  simp only [typeName, Api.TypeName.mk.injEq] at same
  simp only [key, same]

/-- The key tells plain kinds apart. -/
theorem typeName_eq_of_key (plain : a.IsPlain) (plain' : b.IsPlain) (same : a.key = b.key) :
    a.typeName = b.typeName := by
  have texts : a.apiVersion.toList ++ '/' :: a.kind.toList =
      b.apiVersion.toList ++ '/' :: b.kind.toList := by
    simpa [key] using congrArg String.toList same
  obtain ⟨versions, names⟩ := eq_of_append_slash plain plain' texts
  simp only [typeName, String.toList_inj.1 versions, String.toList_inj.1 names]

end ResourceKind

namespace Scheme

variable {scheme : Scheme} {kind known : ResourceKind} {key : String}

theorem keptUnder?_eq_none_iff :
    scheme.keptUnder? key = none ↔ ∀ known ∈ scheme.kinds, known.key ≠ key := by
  simp [keptUnder?]

theorem of_keptUnder? (h : scheme.keptUnder? key = some known) :
    known ∈ scheme.kinds ∧ known.key = key := by
  unfold keptUnder? at h
  exact ⟨List.mem_reverse.1 (List.mem_of_find?_eq_some h), by simpa using List.find?_some h⟩

/-- Whether no two kinds of a scheme have the same key. -/
def IsUnambiguous (scheme : Scheme) : Prop :=
  ∀ kind ∈ scheme.kinds, ∀ known ∈ scheme.kinds, known.key = kind.key → known = kind

theorem IsUnambiguous.keptUnder? (h : scheme.IsUnambiguous) (registered : kind ∈ scheme.kinds) :
    scheme.keptUnder? kind.key = some kind := by
  cases kept : scheme.keptUnder? kind.key with
  | none => exact absurd rfl (keptUnder?_eq_none_iff.1 kept kind registered)
  | some known =>
      obtain ⟨is_known, same_key⟩ := of_keptUnder? kept
      rw [h kind registered known is_known same_key]

/-- Whether a scheme has the key of a kind for no other kind. -/
def TellsApart (scheme : Scheme) (kind : ResourceKind) : Prop :=
  ∀ known ∈ scheme.kinds, known.key = kind.key → known.typeName = kind.typeName

/-- Kinds whose names are like those of the API have keys of their own. -/
theorem tellsApart_of_isPlain (plain : ∀ known ∈ scheme.kinds, known.IsPlain)
    (plain_kind : kind.IsPlain) : scheme.TellsApart kind :=
  fun known registered => ResourceKind.typeName_eq_of_key (plain known registered) plain_kind

/-- Two kinds with the same key, of which the second one is kept. -/
def ambiguous : Scheme := (({} : Scheme).add ⟨"g", "v", "A", "as"⟩).add ⟨"", "g", "v/A", "vas"⟩

end Scheme

namespace Cache

variable {c : Cache} {cell : Cell}

theorem mem_kept :
    cell ∈ c.kept ↔ cell ∈ c.cells ∧ c.scheme.keptUnder? cell.kind.key = some cell.kind := by
  simp only [kept, List.mem_flatMap, List.mem_filter, decide_eq_true_eq]
  constructor
  · rintro ⟨key, -, is_cell, keeps⟩
    obtain ⟨-, rfl⟩ := Scheme.of_keptUnder? keeps
    exact ⟨is_cell, keeps⟩
  · rintro ⟨is_cell, keeps⟩
    refine ⟨cell.kind.key, ?_, is_cell, keeps⟩
    exact Text.NameSet.mem_ofList.2 (List.mem_map_of_mem (Scheme.of_keptUnder? keeps).1)

theorem kept_of_cells_eq_nil (h : c.cells = []) : c.kept = [] :=
  List.eq_nil_iff_forall_not_mem.2 fun cell is_kept => by simpa [h] using (mem_kept.1 is_kept).1

/-- With one kind all stores are kept. -/
theorem kept_of_single {kind : ResourceKind} (single : c.scheme = ⟨[kind]⟩)
    (cells : ∀ cell ∈ c.cells, cell.kind = kind) : c.kept = c.cells := by
  have keeps : c.scheme.keptUnder? kind.key = some kind := by simp [single, Scheme.keptUnder?]
  have keys : (Text.NameSet.ofList (c.scheme.kinds.map (·.key))).toList = [kind.key] := by
    rw [single]
    rfl
  rw [kept, keys, List.flatMap_singleton, List.filter_eq_self]
  intro cell is_cell
  simpa [cells cell is_cell] using keeps

/-- The stores that are kept depend on the kinds of the cells alone. -/
theorem forall₂_kept {R : Cell → Cell → Prop} {c' : Cache} (scheme_eq : c'.scheme = c.scheme)
    (kinds : ∀ cell cell', R cell cell' → cell'.kind = cell.kind)
    (cells : List.Forall₂ R c.cells c'.cells) : List.Forall₂ R c.kept c'.kept := by
  have keys : ∀ keys : List String, List.Forall₂ R
      (keys.flatMap fun key =>
        c.cells.filter fun cell => c.scheme.keptUnder? key = some cell.kind)
      (keys.flatMap fun key =>
        c'.cells.filter fun cell => c.scheme.keptUnder? key = some cell.kind) := by
    intro keys
    induction keys with
    | nil => exact .nil
    | cons key keys ih =>
        refine List.rel_append (List.rel_filter ?_ cells) ih
        intro cell cell' related
        simp only [kinds cell cell' related]
  unfold kept
  rw [scheme_eq]
  exact keys _

end Cache

end GatedManager
