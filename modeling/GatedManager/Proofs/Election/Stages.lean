import GatedManager.Election.Campaign
import GatedManager.Proofs.Election.Attempt

/-!
# Stages of a campaign

How an answer moves a campaign from stage to stage, and what a campaign never changes.
-/

namespace GatedManager.Election.Campaign

/-- The campaign after a step of its attempt. -/
def proceed (c : Campaign) (elector : Elector) (progress : Progress) (now : Instant) : Campaign :=
  match progress with
  | .waiting attempt => c.attempting elector attempt
  | .finished (.ok held) => c.conclude elector held now
  | .finished (.error _) => c.conclude elector false now

/-- An answer makes the open attempt advance, and the campaign proceeds with the outcome. -/
theorem answer_eq_ok {c c' : Campaign} {attempt : Attempt} {answer : Answer} {now : Instant}
    (ha : c.attempt? = some attempt) (h : c.answer answer now = .ok c') :
    ∃ elector progress, Elector.Advances c.elector now attempt answer elector progress ∧
      c' = c.proceed elector progress now := by
  unfold Campaign.answer at h
  rw [ha] at h
  simp only at h
  split at h
  case h_1 => simp at h
  case h_2 elector next hs =>
    exact ⟨elector, _, Elector.advances_of_advance hs, (Except.ok.inj h).symm⟩
  case h_3 elector held hs =>
    exact ⟨elector, _, Elector.advances_of_advance hs, (Except.ok.inj h).symm⟩
  case h_4 elector error hs =>
    exact ⟨elector, _, Elector.advances_of_advance hs, (Except.ok.inj h).symm⟩

theorem answer_eq_error_iff {c : Campaign} {attempt : Attempt} {answer : Answer} {now : Instant}
    {crash : Crash} (ha : c.attempt? = some attempt) :
    c.answer answer now = .error crash ↔ c.elector.advance attempt answer now = .error crash := by
  unfold Campaign.answer
  rw [ha]
  simp only
  split <;> simp [*]

/-- What the stages of an open attempt look like. -/
theorem attempt?_eq_some_iff {c : Campaign} {attempt : Attempt} :
    c.attempt? = some attempt ↔
      c.stage = .acquiring (.answer attempt) ∨ ∃ d, c.stage = .renewing d (.answer attempt) := by
  unfold attempt?
  split <;> simp_all [eq_comm]

theorem attempting_frame {c : Campaign} {attempt : Attempt} (ha : c.attempt? = some attempt)
    (elector : Elector) (next : Attempt) :
    (c.attempting elector next).elector = elector ∧
      (c.attempting elector next).cancelled = c.cancelled := by
  rcases attempt?_eq_some_iff.1 ha with h | ⟨d, h⟩ <;>
    simp only [attempting, h, and_self]

theorem conclude_frame {c : Campaign} {attempt : Attempt} {now : Instant}
    (ha : c.attempt? = some attempt) (elector : Elector) (held : Bool) :
    (c.conclude elector held now).elector = elector ∧
      (c.conclude elector held now).cancelled = c.cancelled := by
  rcases attempt?_eq_some_iff.1 ha with h | ⟨d, h⟩ <;>
    cases held <;> cases cancelled : c.cancelled <;> simp [conclude, h, cancelled]

/-- Only an attempt that got the lease acquires it for the campaign. -/
theorem held_of_acquired {c : Campaign} {attempt : Attempt} {now : Instant} {elector : Elector}
    {held : Bool} (ha : c.attempt? = some attempt)
    (acquired : (c.conclude elector held now).stage = .ended .acquired) : held = true := by
  rcases attempt?_eq_some_iff.1 ha with h | ⟨d, h⟩ <;>
    cases held <;> cases cancelled : c.cancelled <;> simp [conclude, h, cancelled] at acquired ⊢

theorem proceed_elector {c : Campaign} {attempt : Attempt} {elector : Elector}
    {progress : Progress} {now : Instant} (ha : c.attempt? = some attempt) :
    (c.proceed elector progress now).elector = elector := by
  match progress with
  | .waiting next => exact (attempting_frame ha elector next).1
  | .finished (.ok held) => exact (conclude_frame ha elector held).1
  | .finished (.error error) => exact (conclude_frame ha elector false).1

theorem answer_config {c c' : Campaign} {answer : Answer} {now : Instant}
    (h : c.answer answer now = .ok c') : c'.elector.config = c.elector.config := by
  cases ha : c.attempt? with
  | none =>
      obtain rfl : c = c' := by simpa [Campaign.answer, ha] using h
      rfl
  | some attempt =>
      obtain ⟨elector, progress, advances, rfl⟩ := answer_eq_ok ha h
      rw [proceed_elector ha]
      exact advances.frame.2

/-- A campaign to acquire the lease ends well only with the answer that a write was stored. -/
theorem answer_acquiring {c c' : Campaign} {attempt : Attempt} {answer : Answer} {now : Instant}
    (hs : c.stage = .acquiring (.answer attempt)) (h : c.answer answer now = .ok c') :
    (∃ wait, c'.stage = .acquiring wait) ∨ c'.stage = .ended .abandoned ∨
      c'.stage = .ended .acquired ∧ answer = .written (.ok ()) := by
  obtain ⟨elector, progress, advances, rfl⟩ :=
    answer_eq_ok (attempt?_eq_some_iff.2 (.inl hs)) h
  match progress, advances with
  | .waiting next, _ => exact .inl ⟨.answer next, by simp [proceed, attempting, hs]⟩
  | .finished (.ok true), advances =>
      exact .inr (.inr ⟨by simp [proceed, conclude, hs], advances.held.2⟩)
  | .finished (.ok false), _ =>
      by_cases hc : c.cancelled <;> simp [proceed, conclude, hs, hc]
  | .finished (.error _), _ =>
      by_cases hc : c.cancelled <;> simp [proceed, conclude, hs, hc]

/-- A window closes before its deadline only with the answer that a write was stored. -/
theorem answer_renewing {c c' : Campaign} {deadline : Instant} {attempt : Attempt}
    {answer : Answer} {now : Instant} (hs : c.stage = .renewing deadline (.answer attempt))
    (h : c.answer answer now = .ok c') :
    (∃ wait, c'.stage = .renewing deadline wait) ∨ c'.stage = .ended .released ∨
      c'.stage = .resting (Instant.timer now c.elector.config.retryPeriod) ∧
        answer = .written (.ok ()) := by
  obtain ⟨elector, progress, advances, rfl⟩ :=
    answer_eq_ok (attempt?_eq_some_iff.2 (.inr ⟨deadline, hs⟩)) h
  match progress, advances with
  | .waiting next, _ => exact .inl ⟨.answer next, by simp [proceed, attempting, hs]⟩
  | .finished (.ok true), advances =>
      by_cases hc : c.cancelled
      · simp [proceed, conclude, hs, hc]
      · exact .inr (.inr ⟨by simp [proceed, conclude, hs, hc, pauseFrom, advances.frame.2],
          advances.held.2⟩)
  | .finished (.ok false), _ =>
      by_cases hc : c.cancelled <;> simp [proceed, conclude, hs, hc]
  | .finished (.error _), _ =>
      by_cases hc : c.cancelled <;> simp [proceed, conclude, hs, hc]

theorem wake_elector (c : Campaign) (now : Instant) (clock : Timestamp) :
    (c.wake now clock).elector = c.elector := by
  unfold wake
  split <;> (try simp only) <;> (try split) <;> (try split) <;> rfl

theorem wake_cancelled (c : Campaign) (now : Instant) (clock : Timestamp) :
    (c.wake now clock).cancelled = c.cancelled := by
  unfold wake
  split <;> (try simp only) <;> (try split) <;> (try split) <;> rfl

theorem cancel_elector (c : Campaign) : c.cancel.elector = c.elector := by
  unfold cancel
  split <;> rfl

theorem outcome?_eq_some_iff {c : Campaign} {outcome : Outcome} :
    c.outcome? = some outcome ↔ c.stage = .ended outcome := by
  unfold outcome?
  split <;> simp_all [eq_comm]

/-- The first answer of a campaign is that there is no lease, and it goes on to create one. -/
theorem answer_absent {e : Elector} {clock : Timestamp} {attempt : Attempt}
    (absent : e.onAbsent clock = .waiting attempt) (cancelled : Bool) (now : Instant) :
    (acquire e cancelled clock).answer (.read (.ok none)) now =
      .ok ⟨e, cancelled, .acquiring (.answer attempt)⟩ := by
  simp only [acquire, attempt?, Campaign.answer, Elector.advance, absent, attempting]

/-- An elector without memory hears that the lease was created. -/
theorem answer_created {e : Elector} (record : Record) (lease : Api.Lease) {now : Instant}
    (fresh : e.observed = none) (reaches : Instant.reaches now e.config.leaseDuration)
    (cancelled : Bool) :
    Campaign.answer ⟨e, cancelled, .acquiring (.answer (.creating record lease))⟩
        (.written (.ok ())) now =
      .ok ⟨{ e with observed := some ⟨record, now⟩ }, cancelled, .ended .acquired⟩ := by
  have remembered : e.remember record now = ⟨record, now⟩ := by
    rw [Elector.remember, fresh]
  have observed : e.observe record now = .ok (_, { e with observed := some ⟨record, now⟩ }) :=
    Elector.observe_eq_ok_iff.2 ⟨by rw [remembered]; exact reaches, rfl, by rw [remembered]⟩
  simp only [Campaign.answer, attempt?, Elector.advance, Elector.onWritten, observed, conclude,
    if_true]

/-! ### Campaigns that are not cancelled -/

/-- A campaign that seeks the lease and is not cancelled: it goes on until it has acquired it. -/
structure Seeks (c : Campaign) : Prop where
  uncancelled : c.cancelled = false
  seeks : (∃ wait, c.stage = .acquiring wait) ∨ c.stage = .ended .acquired

/-- A campaign that keeps the lease and is not cancelled: it goes on until it loses it. -/
structure Keeps (c : Campaign) : Prop where
  uncancelled : c.cancelled = false
  keeps : (∃ wake, c.stage = .resting wake) ∨ (∃ d wait, c.stage = .renewing d wait) ∨
    c.stage = .ended .lost

variable {c c' : Campaign} {a : Answer} {now : Instant}

theorem seeks_acquire (e : Elector) (clock : Timestamp) : (acquire e false clock).Seeks :=
  ⟨rfl, .inl ⟨_, rfl⟩⟩

theorem keeps_hold (e : Elector) (now : Instant) : (hold e false now).Keeps :=
  ⟨rfl, .inl ⟨_, rfl⟩⟩

theorem Seeks.acquired (h : c.Seeks) {outcome : Outcome} (is_outcome : c.outcome? = some outcome) :
    outcome = .acquired := by
  have ended := outcome?_eq_some_iff.1 is_outcome
  rcases h.seeks with ⟨wait, stage⟩ | stage
  · exact nomatch ended.symm.trans stage
  · exact Stage.ended.inj (ended.symm.trans stage)

theorem Keeps.lost (h : c.Keeps) {outcome : Outcome} (is_outcome : c.outcome? = some outcome) :
    outcome = .lost := by
  have ended := outcome?_eq_some_iff.1 is_outcome
  rcases h.keeps with ⟨wake, stage⟩ | ⟨d, wait, stage⟩ | stage
  · exact nomatch ended.symm.trans stage
  · exact nomatch ended.symm.trans stage
  · exact Stage.ended.inj (ended.symm.trans stage)

theorem Seeks.answer (h : c.Seeks) (waits : c.attempt?.isSome)
    (answers : c.answer a now = .ok c') : c'.Seeks := by
  obtain ⟨attempt, ha⟩ := Option.isSome_iff_exists.1 waits
  obtain ⟨elector, progress, -, rfl⟩ := answer_eq_ok ha answers
  have stage : c.stage = .acquiring (.answer attempt) := by
    rcases attempt?_eq_some_iff.1 ha, h.seeks with ⟨seeks | ⟨d, renews⟩, ⟨wait, stage⟩ | stage⟩
    · exact seeks
    · exact seeks
    · exact nomatch renews.symm.trans stage
    · exact nomatch renews.symm.trans stage
  match progress with
  | .waiting next =>
      exact ⟨(attempting_frame ha elector next).2.trans h.uncancelled,
        .inl ⟨.answer next, by simp [proceed, attempting, stage]⟩⟩
  | .finished (.ok true) =>
      exact ⟨(conclude_frame ha elector true).2.trans h.uncancelled,
        .inr (by simp [proceed, conclude, stage])⟩
  | .finished (.ok false) =>
      exact ⟨(conclude_frame ha elector false).2.trans h.uncancelled,
        .inl (by simp [proceed, conclude, stage, h.uncancelled])⟩
  | .finished (.error error) =>
      exact ⟨(conclude_frame ha elector false).2.trans h.uncancelled,
        .inl (by simp [proceed, conclude, stage, h.uncancelled])⟩

theorem Keeps.answer (h : c.Keeps) (waits : c.attempt?.isSome)
    (answers : c.answer a now = .ok c') : c'.Keeps := by
  obtain ⟨attempt, ha⟩ := Option.isSome_iff_exists.1 waits
  obtain ⟨elector, progress, -, rfl⟩ := answer_eq_ok ha answers
  obtain ⟨d, stage⟩ : ∃ d, c.stage = .renewing d (.answer attempt) := by
    rcases attempt?_eq_some_iff.1 ha with seeks | renews
    · rcases h.keeps with ⟨wake, stage⟩ | ⟨d, wait, stage⟩ | stage
      all_goals exact nomatch seeks.symm.trans stage
    · exact renews
  match progress with
  | .waiting next =>
      exact ⟨(attempting_frame ha elector next).2.trans h.uncancelled,
        .inr (.inl ⟨d, .answer next, by simp [proceed, attempting, stage]⟩)⟩
  | .finished (.ok true) =>
      exact ⟨(conclude_frame ha elector true).2.trans h.uncancelled,
        .inl (by simp [proceed, conclude, stage, h.uncancelled])⟩
  | .finished (.ok false) =>
      exact ⟨(conclude_frame ha elector false).2.trans h.uncancelled,
        .inr (.inl (by simp [proceed, conclude, stage, h.uncancelled]))⟩
  | .finished (.error error) =>
      exact ⟨(conclude_frame ha elector false).2.trans h.uncancelled,
        .inr (.inl (by simp [proceed, conclude, stage, h.uncancelled]))⟩

theorem Seeks.wake (h : c.Seeks) (now : Instant) (clock : Timestamp) : (c.wake now clock).Seeks := by
  refine ⟨(wake_cancelled c now clock).trans h.uncancelled, ?_⟩
  rcases h.seeks with ⟨wait, stage⟩ | stage
  · cases wait with
    | answer attempt => simp [Campaign.wake, stage]
    | pause wake => by_cases due : wake ≤ now <;> simp [Campaign.wake, stage, due]
  · simp [Campaign.wake, stage]

theorem Keeps.wake (h : c.Keeps) (now : Instant) (clock : Timestamp) : (c.wake now clock).Keeps := by
  refine ⟨(wake_cancelled c now clock).trans h.uncancelled, ?_⟩
  rcases h.keeps with ⟨wake, stage⟩ | ⟨d, wait, stage⟩ | stage
  · by_cases due : wake ≤ now <;> simp [Campaign.wake, stage, due]
  · cases wait with
    | answer attempt => by_cases closed : d ≤ now <;> simp [Campaign.wake, stage, closed]
    | pause wake =>
        by_cases closed : d ≤ now <;> by_cases due : wake ≤ now <;>
          simp [Campaign.wake, stage, closed, due]
  · simp [Campaign.wake, stage]

end GatedManager.Election.Campaign
