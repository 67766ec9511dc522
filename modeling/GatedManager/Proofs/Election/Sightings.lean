import GatedManager.Proofs.Election.Attempt

/-!
# The record seen last

An elector judges a lease by the record it has seen last and by the instant of its first sight of
it. What it has seen is listed with the latest first. The sighting that counts is the earliest of
those at the front of the list that show one record.
-/

namespace GatedManager.Election.Vigil

/-- Whether the record seen last was first seen with `first`, and in all sightings after it. -/
def FirstSight (sightings : List Observed) (first : Observed) : Prop :=
  ∃ recent earlier, sightings = recent ++ first :: earlier ∧
    (∀ sighting ∈ recent, sighting.record = first.record) ∧
    ∀ sighting ∈ earlier.head?, sighting.record ≠ first.record

/-- That sighting. -/
def standing? : List Observed → Option Observed
  | [] => none
  | last :: before =>
    match standing? before with
    | some first => if first.record = last.record then some first else some last
    | none => some last

/-- An elector remembers the record that it has seen last, and since when. -/
theorem remember_eq {e : Elector} {sightings : List Observed}
    (remembers : e.observed = standing? sightings) (record : Record) (now : Instant) :
    some (e.remember record now) = standing? (⟨record, now⟩ :: sightings) := by
  rw [Elector.remember, remembers, standing?]
  cases standing? sightings with
  | none => rfl
  | some first =>
      simp only
      split <;> rfl

theorem record_of_standing? {sightings : List Observed} {first : Observed}
    (stands : standing? sightings = some first) :
    ∃ last before, sightings = last :: before ∧ last.record = first.record := by
  cases sightings with
  | nil => cases stands
  | cons last before =>
      refine ⟨last, before, rfl, ?_⟩
      rw [standing?] at stands
      split at stands
      · split at stands
        case isTrue same =>
          obtain rfl := Option.some.inj stands
          exact same.symm
        case isFalse =>
          obtain rfl := Option.some.inj stands
          rfl
      · obtain rfl := Option.some.inj stands
        rfl

theorem standing?_append {recent earlier : List Observed} {first : Observed}
    (same : ∀ sighting ∈ recent, sighting.record = first.record)
    (new : ∀ sighting ∈ earlier.head?, sighting.record ≠ first.record) :
    standing? (recent ++ first :: earlier) = some first := by
  induction recent with
  | nil =>
      rw [List.nil_append, standing?]
      split
      case h_1 before stands =>
        obtain ⟨last, older, rfl, is_last⟩ := record_of_standing? stands
        exact if_neg fun again => new last rfl (is_last.trans again)
      case h_2 => rfl
  | cons last recent ih =>
      rw [List.forall_mem_cons] at same
      rw [List.cons_append, standing?, ih same.2]
      exact if_pos same.1.symm

theorem firstSight_iff {sightings : List Observed} {first : Observed} :
    FirstSight sightings first ↔ standing? sightings = some first := by
  constructor
  · rintro ⟨recent, earlier, rfl, same, new⟩
    exact standing?_append same new
  · intro stands
    induction sightings with
    | nil => cases stands
    | cons last before ih =>
        rw [standing?] at stands
        split at stands
        case h_1 older stood =>
          split at stands
          case isTrue same =>
            obtain rfl := Option.some.inj stands
            obtain ⟨recent, earlier, rfl, same_recent, new⟩ := ih stood
            exact ⟨last :: recent, earlier, rfl,
              List.forall_mem_cons.2 ⟨same.symm, same_recent⟩, new⟩
          case isFalse different =>
            obtain rfl := Option.some.inj stands
            obtain ⟨previous, earlier, rfl, is_previous⟩ := record_of_standing? stood
            refine ⟨[], _, rfl, nofun, ?_⟩
            rintro _ ⟨⟩
            exact fun again => different (is_previous.symm.trans again)
        case h_2 none_stands =>
          obtain rfl := Option.some.inj stands
          cases before with
          | nil => exact ⟨[], [], rfl, nofun, nofun⟩
          | cons previous earlier =>
              rw [standing?] at none_stands
              split at none_stands
              · split at none_stands <;> cases none_stands
              · cases none_stands

namespace FirstSight

variable {sightings recent earlier : List Observed} {first seen : Observed}

theorem mem (h : FirstSight sightings first) : first ∈ sightings := by
  obtain ⟨recent, earlier, rfl, -, -⟩ := h
  exact List.mem_append_right recent (List.mem_cons_self ..)

/-- The first sight is one of the record seen last. -/
theorem same_record {last : Observed} (h : FirstSight (last :: sightings) first) :
    last.record = first.record := by
  obtain ⟨_, _, split, is_last⟩ := record_of_standing? (firstSight_iff.1 h)
  obtain ⟨rfl, rfl⟩ := List.cons_eq_cons.1 split
  exact is_last

/-- No sighting comes before the first one from which on the record has been the same. -/
theorem since_le (h : FirstSight (recent ++ seen :: earlier) first)
    (ordered : (recent ++ seen :: earlier).Pairwise fun later before =>
      before.since ≤ later.since)
    (same : ∀ sighting ∈ recent, sighting.record = seen.record) : first.since ≤ seen.since := by
  obtain ⟨recent', earlier', split, -, new⟩ := h
  rcases List.append_eq_append_iff.1 split with ⟨between, rfl, rest⟩ | ⟨between, rfl, rest⟩
  · -- `seen` is the first sight or comes after it.
    rcases List.cons_eq_append_iff.1 rest with ⟨rfl, first_eq⟩ | ⟨after, rfl, rfl⟩
    · obtain ⟨rfl, -⟩ := List.cons_eq_cons.1 first_eq
      exact Nat.le_refl _
    · have after_seen := (List.pairwise_append.1 ordered).2.1
      exact (List.pairwise_cons.1 after_seen).1 first (by simp)
  · -- `seen` is the first sight, for the sighting before that shows another record.
    rcases List.cons_eq_append_iff.1 rest with ⟨rfl, seen_eq⟩ | ⟨after, rfl, rfl⟩
    · obtain ⟨rfl, -⟩ := List.cons_eq_cons.1 seen_eq
      exact Nat.le_refl _
    · have first_same : first.record = seen.record := same first (by simp)
      cases after with
      | nil => exact absurd first_same.symm (new seen rfl)
      | cons previous after =>
          have previous_same : previous.record = seen.record := same previous (by simp)
          exact absurd (previous_same.trans first_same.symm) (new previous rfl)

end FirstSight

end GatedManager.Election.Vigil
