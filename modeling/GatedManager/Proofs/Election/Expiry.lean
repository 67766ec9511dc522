import GatedManager.Proofs.Election.Sightings

/-!
# When a lease has expired

An elector that takes note of a record tells whether it has expired. All that it keeps of the past
is one record and one instant, and yet the answer is about the whole sequence of records that it
has been shown: they have expired once the last of them has stood, without another in between, for
the lease duration.

The elector is brought through the sequence call by call. After each call it remembers the first
sight of the record seen last.
-/

namespace GatedManager.Election.Elector

open Vigil (FirstSight standing? remember_eq firstSight_iff)

/-- Takes note of one record after the other, each at its instant. -/
def observeAll (e : Elector) (calls : List Observed) : Except Crash Elector :=
  calls.foldlM (fun e call => (e.observe call.record call.since).map Prod.snd) e

/-- Whether the record of `last` has stood for `d` when it is seen then: in some call that long ago
it was seen already, and in every call from that one on. -/
def HasStood (d : Duration) (calls : List Observed) (last : Observed) : Prop :=
  ∃ before first since, calls ++ [last] = before ++ first :: since ∧
    first.since + d.nanos ≤ last.since ∧ ∀ call ∈ first :: since, call.record = last.record

section Run

variable {e : Elector} {past : List Observed}

/-- What is remembered was seen, so it was seen by now. -/
theorem remembersPast_of_standing? (remembers : e.observed = standing? past) {now : Instant}
    (seen_by : ∀ seen ∈ past, seen.since ≤ now) : e.RemembersPast now := by
  intro seen is_seen
  have first : FirstSight past seen := firstSight_iff.2 (remembers.symm.trans is_seen)
  exact seen_by seen first.mem

/-- One call: the elector goes on remembering the first sight of the record seen last. -/
theorem observe_standing? (remembers : e.observed = standing? past) (call : Observed)
    (seen_by : ∀ seen ∈ past, seen.since ≤ call.since)
    (fits : Instant.reaches call.since e.config.leaseDuration) :
    ∃ first, standing? (call :: past) = some first ∧
      e.observe call.record call.since =
        .ok (decide (first.since + e.config.leaseDuration.nanos ≤ call.since),
          { e with observed := standing? (call :: past) }) := by
  have stands : some (e.remember call.record call.since) = standing? (call :: past) :=
    remember_eq remembers call.record call.since
  refine ⟨_, stands.symm, ?_⟩
  rw [← stands]
  exact (remembersPast_of_standing? remembers seen_by).exists_observe fits call.record

/-- The whole sequence, by induction on the calls. -/
theorem observeAll_standing? {calls : List Observed} (remembers : e.observed = standing? past)
    (ordered : (past.reverse ++ calls).Pairwise fun a b => a.since ≤ b.since)
    (fits : ∀ call ∈ calls, Instant.reaches call.since e.config.leaseDuration) :
    e.observeAll calls = .ok { e with observed := standing? (calls.reverse ++ past) } := by
  induction calls generalizing e past with
  | nil =>
      rw [List.reverse_nil, List.nil_append, ← remembers]
      rfl
  | cons call calls ih =>
      have seen_by : ∀ seen ∈ past, seen.since ≤ call.since := by
        intro seen is_seen
        apply (List.pairwise_append.1 ordered).2.2 seen (List.mem_reverse.2 is_seen)
        exact List.mem_cons_self ..
      obtain ⟨first, -, observed⟩ :=
        observe_standing? remembers call seen_by (fits call (List.mem_cons_self ..))
      have rest : observeAll { e with observed := standing? (call :: past) } calls =
          .ok { e with observed := standing? (calls.reverse ++ call :: past) } := by
        refine ih rfl ?_ fun later is_later => fits later (List.mem_cons_of_mem call is_later)
        rwa [List.reverse_cons, List.append_assoc, List.singleton_append]
      rw [observeAll, List.foldlM_cons, observed, List.reverse_cons, List.append_assoc,
        List.singleton_append]
      exact rest

end Run

/-- The first sight of the record seen last decides whether that record has stood. -/
theorem hasStood_iff {d : Duration} {calls : List Observed} {first last : Observed}
    (sight : FirstSight (last :: calls.reverse) first)
    (ordered : (calls ++ [last]).Pairwise fun a b => a.since ≤ b.since) :
    HasStood d calls last ↔ first.since + d.nanos ≤ last.since := by
  have backwards : (calls ++ [last]).reverse = last :: calls.reverse := by simp
  constructor
  · rintro ⟨before, seen, since, split, long, same⟩
    have reversed : last :: calls.reverse = since.reverse ++ seen :: before.reverse := by
      rw [← backwards, split, List.reverse_append, List.reverse_cons, List.append_assoc,
        List.singleton_append]
    have same_seen : ∀ sighting ∈ since.reverse, sighting.record = seen.record := by
      intro sighting is_sighting
      have is_last := same sighting (List.mem_cons_of_mem seen (List.mem_reverse.1 is_sighting))
      exact is_last.trans (same seen (List.mem_cons_self ..)).symm
    rw [← List.pairwise_reverse, backwards, reversed] at ordered
    rw [reversed] at sight
    exact Nat.le_trans (Nat.add_le_add_right (sight.since_le ordered same_seen) _) long
  · intro long
    have is_last : last.record = first.record := sight.same_record
    obtain ⟨recent, earlier, split, same, -⟩ := sight
    refine ⟨earlier.reverse, first, recent.reverse, ?_, long, ?_⟩
    · rw [← List.reverse_inj, backwards, split]
      simp
    · refine List.forall_mem_cons.2 ⟨is_last.symm, fun call is_call => ?_⟩
      exact (same call (List.mem_reverse.1 is_call)).trans is_last.symm

/-- After any sequence of calls, a record is told to have expired exactly if it has stood for the
lease duration. -/
theorem observe_expired_iff {e : Elector} (fresh : e.observed = none) (calls : List Observed)
    (last : Observed) (ordered : (calls ++ [last]).Pairwise fun a b => a.since ≤ b.since)
    (fits : Instant.reaches last.since e.config.leaseDuration) :
    ∃ e₁ e₂ expired, e.observeAll calls = .ok e₁ ∧
      e₁.observe last.record last.since = .ok (expired, e₂) ∧
      (expired = true ↔ HasStood e.config.leaseDuration calls last) := by
  have in_order : calls.Pairwise fun a b => a.since ≤ b.since := (List.pairwise_append.1 ordered).1
  have by_then : ∀ call ∈ calls, call.since ≤ last.since := by
    intro call is_call
    exact (List.pairwise_append.1 ordered).2.2 call is_call last (List.mem_singleton_self last)
  have run : e.observeAll calls = .ok { e with observed := standing? (calls.reverse ++ []) } := by
    refine observeAll_standing? fresh in_order fun call is_call => ?_
    exact Instant.onClock_mono (Nat.add_le_add_right (by_then call is_call) _) fits
  rw [List.append_nil] at run
  have seen_by : ∀ seen ∈ calls.reverse, seen.since ≤ last.since :=
    fun seen is_seen => by_then seen (List.mem_reverse.1 is_seen)
  obtain ⟨first, stands, observed⟩ := observe_standing?
    (e := { e with observed := standing? calls.reverse }) rfl last seen_by fits
  refine ⟨_, _, _, run, observed, ?_⟩
  rw [decide_eq_true_iff, hasStood_iff (firstSight_iff.2 stands) ordered]

/-- The calls of a candidate that sees the record of `standing` twice, with another in between. -/
def interrupted (standing : Record) : List Observed :=
  [⟨standing, 0⟩, ⟨{ standing with holderIdentity := some "c" }, 7000000000⟩,
    ⟨standing, 10000000000⟩, ⟨standing, 16000000000⟩]

/-- A record is replaced and comes back. It has expired a lease duration after it came back, to the
nanosecond. -/
theorem expired_after_return : ∃ e₁ e₂,
    (Elector.mk "a" { leaseDuration := .ofSeconds 15 } none).observeAll
      (interrupted { holderIdentity := some "b" }) = .ok e₁ ∧
    e₁.observe { holderIdentity := some "b" } 25000000000 = .ok (true, e₂) := by
  let standing : Record := { holderIdentity := some "b" }
  let last : Observed := ⟨standing, 25000000000⟩
  obtain ⟨e₁, e₂, expired, run, observed, expired_iff⟩ :=
    observe_expired_iff (e := ⟨"a", { leaseDuration := .ofSeconds 15 }, none⟩) rfl
      (interrupted standing) last (by decide) (by decide)
  have stood : HasStood (.ofSeconds 15) (interrupted standing) last :=
    ⟨(interrupted standing).take 2, ⟨standing, 10000000000⟩, [⟨standing, 16000000000⟩, last],
      rfl, by decide, by decide⟩
  have is_true : expired = true := expired_iff.2 stood
  exact ⟨e₁, e₂, run, is_true ▸ observed⟩

end GatedManager.Election.Elector
