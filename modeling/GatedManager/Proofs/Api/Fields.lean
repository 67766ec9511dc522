import GatedManager.Api.Meta
import GatedManager.Proofs.Json.Members
import GatedManager.Proofs.Time.Written

/-!
# Reading back what was written

A value that was read from some JSON can differ from it in many ways: names that are not fields are
dropped, absent and null fields are the same, times are cut. What is written of the value is read
as the value again, up to a loss that depends on the type alone. This goes from the values of
fields to whole objects, without any condition on a value but that it was read once.
-/

namespace GatedManager.Api

open Json (optional ofFields recordFields? str? bool? intIn? int32? int64? list? texts? any?)

variable {α : Type}

/-- What is written of a value that was read is read with some loss, and is not null. -/
def Rewrites (read? : Json → Option α) (write : α → Json) (loss : α → α) : Prop :=
  ∀ j a, read? j = some a → write a ≠ .null ∧ read? (write a) = some (loss a)

/-- The same of a field, which may be absent. -/
def RewritesField (read? : Option Json → Option α) (write : α → Option Json) (loss : α → α) :
    Prop :=
  ∀ field a, read? field = some a → read? (write a) = some (loss a)

theorem optional_of_ne_null {read? : Json → Option α} {j : Json} (h : j ≠ .null) :
    optional read? (some j) = (read? j).map some := by
  cases j with
  | null => exact absurd rfl h
  | _ => rfl

theorem exists_of_optional {read? : Json → Option α} {field : Option Json} {a : α}
    (h : optional read? field = some (some a)) : ∃ j, read? j = some a := by
  simp only [Json.optional] at h
  split at h
  · cases h
  · cases h
  · next j _ =>
    obtain ⟨a', read, same⟩ := Option.map_eq_some_iff.1 h
    exact ⟨j, Option.some.inj same ▸ read⟩

theorem Rewrites.optional {read? : Json → Option α} {write : α → Json} {loss : α → α}
    (h : Rewrites read? write loss) :
    RewritesField (optional read?) (·.map write) (·.map loss) := by
  intro field a? read
  cases a? with
  | none => rfl
  | some a =>
      obtain ⟨j, value⟩ := exists_of_optional read
      obtain ⟨ne_null, again⟩ := h j a value
      exact (optional_of_ne_null ne_null).trans (congrArg (Option.map some) again)

theorem Rewrites.optional_id {read? : Json → Option α} {write : α → Json}
    (h : Rewrites read? write id) : RewritesField (Json.optional read?) (·.map write) id := by
  intro field a? read
  simpa using h.optional field a? read

theorem Rewrites.required {read? : Json → Option α} {write : α → Json} {loss : α → α}
    (h : Rewrites read? write loss) :
    RewritesField (Json.required read?) (fun a => some (write a)) loss := by
  intro field a read
  obtain ⟨j, -, value⟩ := Option.bind_eq_some_iff.1 read
  exact (h j a value).2

theorem Rewrites.defaulted {read? : Json → Option α} {write : α → Json} {default : α}
    (h : Rewrites read? write id) (default_again : read? (write default) = some default) :
    RewritesField (Json.defaulted default read?) (fun a => some (write a)) id := by
  intro field a read
  cases field with
  | none =>
      obtain rfl := Option.some.inj read
      exact default_again
  | some j => exact (h j a read).2

theorem rewrites_str : Rewrites str? .str id := by
  intro j s h
  exact ⟨nofun, rfl⟩

theorem rewrites_bool : Rewrites bool? .bool id := by
  intro j b h
  exact ⟨nofun, rfl⟩

theorem rewrites_intIn (low high : Int) : Rewrites (intIn? low high) .int id := by
  intro j n h
  refine ⟨nofun, ?_⟩
  simp only [intIn?] at h
  split at h
  · split at h
    · next bounds =>
      cases h
      exact if_pos bounds
    · cases h
  · cases h

theorem rewrites_int32 : Rewrites int32? .int id := rewrites_intIn _ _

theorem rewrites_time (precision : Timestamp.Precision) :
    Rewrites time? (ofTime precision) (·.cut precision) := by
  intro j t h
  refine ⟨nofun, ?_⟩
  simp only [time?] at h
  split at h
  · exact Timestamp.read?_render precision (Timestamp.isValid_of_read? h)
  · cases h

theorem rewrites_any : RewritesField (optional any?) (fun field => field) id := by
  intro field a? read
  simp only [Json.optional] at read
  split at read
  · cases read
    rfl
  · cases read
    rfl
  · next j ne_null =>
    cases read
    exact optional_of_ne_null ne_null

theorem rewrites_textOrEmpty : RewritesField textOrEmpty (fun s => some (.str s)) id := by
  intro field s read
  rfl

theorem mapM_map {β : Type} {f : β → Option α} {g : α → β} (loss : α → α) {s : List β}
    {t : List α} (each : ∀ b a, f b = some a → f (g a) = some (loss a)) (h : s.mapM f = some t) :
    (t.map g).mapM f = some (t.map loss) := by
  induction s generalizing t with
  | nil =>
      cases h
      rfl
  | cons b s ih =>
      simp only [List.mapM_cons, Option.bind_eq_bind, Option.bind_eq_some_iff] at h
      obtain ⟨a, first, t, rest, h⟩ := h
      cases h
      simp [List.mapM_cons, each b a first, ih rest]

theorem Rewrites.list {read? : Json → Option α} {write : α → Json} {loss : α → α}
    (h : Rewrites read? write loss) :
    Rewrites (list? read?) (fun items => .arr (items.map write)) (·.map loss) := by
  intro j items read
  refine ⟨nofun, ?_⟩
  simp only [list?] at read
  split at read
  · exact mapM_map loss (fun j a value => (h j a value).2) read
  · cases read

theorem Rewrites.list_id {read? : Json → Option α} {write : α → Json}
    (h : Rewrites read? write id) :
    Rewrites (list? read?) (fun items => .arr (items.map write)) id := by
  intro j items read
  simpa using h.list j items read

theorem rewrites_texts : Rewrites texts? Json.ofTexts id := by
  intro j texts read
  refine ⟨nofun, ?_⟩
  simp only [texts?] at read
  split at read
  · have same := mapM_map (g := fun text : String × String => (text.1, Json.str text.2)) id
      (fun _ _ _ => rfl) read
    rw [List.map_id] at same
    exact same
  · cases read

/-- A value that is written as a name. -/
theorem rewrites_named {ofName : String → α} {name : α → String}
    (same : ∀ s, ofName (name (ofName s)) = ofName s) :
    Rewrites (fun j => (str? j).map ofName) (fun a => .str (name a)) id := by
  intro j a read
  obtain ⟨s, -, rfl⟩ := Option.map_eq_some_iff.1 read
  exact ⟨nofun, congrArg some (same s)⟩

/-! ### Records -/

/-- A record is read back when its fields are. -/
theorem rewrites_record {names : List String} {values? : List (Option Json) → Option α}
    {fields : α → List (String × Option Json)} {loss : α → α} (distinct : names.Nodup)
    (same : ∀ a, (fields a).map Prod.fst = names)
    (again : ∀ values a, values? values = some a →
      values? ((fields a).map Prod.snd) = some (loss a)) :
    Rewrites (fun j => (recordFields? names j).bind values?) (fun a => ofFields (fields a))
      loss := by
  intro j a h
  refine ⟨nofun, ?_⟩
  obtain ⟨values, -, h⟩ := Option.bind_eq_some_iff.1 h
  have written : recordFields? names (ofFields (fields a)) = some ((fields a).map Prod.snd) :=
    Json.objectFields?_ofFields names distinct (same a)
  exact Option.bind_eq_some_iff.2 ⟨_, written, again values a h⟩

end GatedManager.Api
