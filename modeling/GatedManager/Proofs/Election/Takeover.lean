import GatedManager.Proofs.Election.Vigil

/-!
# When an abandoned lease is taken over

The holder of a lease stops writing it. Its last record stays, so every later attempt of the
candidate sees it, and the lease is taken over when the record has stood for the least multiple of
the retry period that is not shorter than the lease duration. Nothing is written before. The process
of the candidate ends instead if the counter of holder changes has reached its end.
-/

namespace GatedManager.Election

open Api (Lease)
open Instant (nanosPerMilli)
open Simulation (LeaseServer)

namespace Vigil

variable {identity : String} {config : Config} {v v' : Vigil}

/-- A campaign that has ended has the lease, and it returned when the takeover was due. -/
theorem Sound.returned {outcome : Outcome} (h : Sound identity config v)
    (ends : v.candidate.campaign.outcome? = some outcome) :
    outcome = .acquired ∧ ∃ first, standing? v.sightings = some first ∧
      .returned (first.since + config.takeoverDelay) .acquired ∈ v.candidate.minutes := by
  have stage := Campaign.outcome?_eq_some_iff.1 ends
  cases h.stands with
  | reading reads => cases stage.symm.trans reads
  | pausing rests => cases stage.symm.trans rests
  | writing writes => cases stage.symm.trans writes
  | acquired ends alive stands at_due returned =>
      cases stage.symm.trans ends
      exact ⟨rfl, _, stands, returned⟩
  | crashed open_ => simp [Campaign.attempt?, stage] at open_

/-- Whether the lease can be taken over when it is due without a further write of the holder, the
record that the candidate sees last having been seen first with `first`. -/
def Acquires (identity : String) (config : Config) (v : Vigil) (first : Observed) : Prop :=
  ∃ (events : List (Event identity)) (v' : Vigil), (∀ event ∈ events, event.isRenewal = false) ∧
    runFrom Vigil.step v events = some v' ∧ v'.candidate.campaign.outcome? = some .acquired ∧
    FirstSight v'.sightings first ∧
    .returned (first.since + config.takeoverDelay) .acquired ∈ v'.candidate.minutes

theorem Sound.acquires_at_end {outcome : Outcome} {first : Observed}
    (h : Sound identity config v) (ends : v.candidate.campaign.outcome? = some outcome)
    (stands : standing? v.sightings = some first) : Acquires identity config v first := by
  obtain ⟨rfl, seen, is_seen, returned⟩ := h.returned ends
  obtain rfl := Option.some.inj (is_seen.symm.trans stands)
  exact ⟨[], v, by simp, runFrom_nil v, ends, firstSight_iff.2 stands, returned⟩

theorem Acquires.after {first : Observed} {events : List (Event identity)}
    (h : Acquires identity config v' first) (quiet : ∀ event ∈ events, event.isRenewal = false)
    (run : runFrom Vigil.step v events = some v') : Acquires identity config v first := by
  obtain ⟨later, w, quiet_later, run_later, acquired⟩ := h
  refine ⟨events ++ later, w, List.forall_mem_append.2 ⟨quiet, quiet_later⟩, ?_, acquired⟩
  rw [runFrom_append, run, Option.bind_some]
  exact run_later

theorem Sound.acquires_from_write {next : Record} {lease' : Lease} {first : Observed}
    (h : Sound identity config v) (fits : config.Fits v.candidate.now)
    (alive : v.candidate.crash = none) (stands : standing? v.sightings = some first)
    (writes : v.candidate.campaign.stage = .acquiring (.answer (.replacing next lease'))) :
    Acquires identity config v first := by
  obtain ⟨v', stored, sound, sightings_eq, acquired⟩ := h.stored fits alive writes
  have serves : @Vigil.step identity v .serve = some v' := stored
  exact (sound.acquires_at_end acquired (sightings_eq ▸ stands)).after (by simp [Event.isRenewal])
    (runFrom_step serves (runFrom_nil v'))

/-- Once an attempt has read the lease, either it writes or a pause follows. -/
theorem Served.acquires {first : Observed} (h : Served identity config v v' first)
    (fits : config.Fits v'.candidate.now)
    (left : first.record.leaseTransitions ≠ some Json.int32Max)
    (again : ∀ wake, v'.candidate.campaign.stage = .acquiring (.pause wake) →
      Acquires identity config v' first) : Acquires identity config v' first := by
  cases h.sound.stands with
  | reading reads valid waits =>
      have reading : v'.candidate.isReading :=
        Minuted.isReading_iff.2 ⟨_, by rw [Campaign.attempt?, reads]⟩
      exact absurd reading (by simp [h.answered waits.alive])
  | pausing rests => exact again _ rests
  | writing writes held timely written sees alive =>
      exact h.sound.acquires_from_write fits alive h.stands writes
  | acquired ends =>
      exact h.sound.acquires_at_end (Campaign.outcome?_eq_some_iff.2 ends) h.stands
  | crashed open_ crash stands due spent =>
      obtain rfl := Option.some.inj (stands.symm.trans h.stands)
      exact absurd spent left

theorem Served.record_eq {first : Observed} (h : Served identity config v v' first) :
    v'.record? = some first.record := by
  rw [record?, h.server_eq]
  exact h.sees

/-- A pause ends, and the attempt that follows reads the lease. -/
theorem Sound.next_attempt {wake : Instant} (h : Sound identity config v)
    (rests : v.candidate.campaign.stage = .acquiring (.pause wake)) (fits : config.Fits wake)
    (pauses : 0 < config.retryPeriod.nanos) (whole : nanosPerMilli ∣ config.retryPeriod.nanos)
    (clock : { t : Timestamp // t.IsValid }) :
    ∃ (between v' : Vigil) (first : Observed),
      runFrom (@Vigil.step identity) v [.pass wake, .wake clock, .serve] = some v' ∧
      Served identity config between v' first ∧ between.candidate.now = wake ∧
      between.sightings = v.sightings ∧ between.server = v.server := by
  obtain ⟨waits, -, -, -, -, -, shown, early, -⟩ := h.of_pause rests
  have idle : v.candidate.campaign.attempt? = none := by rw [Campaign.attempt?, rests]
  have timer : v.candidate.campaign.timer? = some wake := by rw [Campaign.timer?, rests]
  have passes := Minuted.step_pass waits.alive early shown fun fires is_fires =>
    Nat.le_of_eq (Option.some.inj (timer.symm.trans is_fires))
  have due : v.candidate.campaign.isDue wake = true := by
    simp [Campaign.isDue, rests, timer]
  obtain ⟨candidate, wakes⟩ :=
    Minuted.exists_wake (t := { v.candidate with now := wake }) waits.alive due clock
  have woken := (h.pass idle passes).wake wakes
  have first_step : @Vigil.step identity v (.pass wake) =
      some { v with candidate := { v.candidate with now := wake } } := by
    simp [Vigil.step, idle, passes]
  have second_step : @Vigil.step identity
      { v with candidate := { v.candidate with now := wake } } (.wake clock) =
        some { v with candidate := candidate } := by
    simp [Vigil.step, wakes]
  obtain ⟨alive, advances⟩ := Minuted.advances_of_step wakes
  cases advances with
  | retried paused due =>
      obtain ⟨v', first, served⟩ := woken.served fits pauses whole alive rfl
      exact ⟨_, v', first, runFrom_step first_step (runFrom_step second_step
        (runFrom_step served.serves (runFrom_nil v'))), served, rfl, rfl, rfl⟩
  | opened rested due => cases rests.symm.trans rested
  | again paused early due => cases rests.symm.trans paused
  | lost renews closed unnoticed => cases rests.symm.trans renews

/-- A record that stays is taken over: each pause ends later than the one before, and none after the
takeover is due. -/
theorem Sound.acquires_from_pause {wake : Instant} {first : Observed} (h : Sound identity config v)
    (rests : v.candidate.campaign.stage = .acquiring (.pause wake))
    (stands : standing? v.sightings = some first) (sees : v.record? = some first.record)
    (left : first.record.leaseTransitions ≠ some Json.int32Max)
    (fits : config.Fits (first.since + config.takeoverDelay))
    (pauses : 0 < config.retryPeriod.nanos) (whole : nanosPerMilli ∣ config.retryPeriod.nanos) :
    Acquires identity config v first := by
  have in_time : ∀ {v : Vigil} {wake : Instant}, Sound identity config v →
      v.candidate.campaign.stage = .acquiring (.pause wake) →
      standing? v.sightings = some first → wake ≤ first.since + config.takeoverDelay := by
    intro v wake h rests stands
    obtain ⟨-, seen, n, is_seen, patient, rfl, -⟩ := h.of_pause rests
    obtain rfl := Option.some.inj (is_seen.symm.trans stands)
    exact Nat.add_le_add_left (Nat.mul_le_mul_left _ patient) _
  generalize gap_eq : first.since + config.takeoverDelay - wake = gap
  induction gap using Nat.strong_induction_on generalizing v wake with
  | _ gap ih =>
      have due := in_time h rests stands
      obtain ⟨between, v', last, run, served, now_eq, sightings_eq, server_eq⟩ :=
        h.next_attempt rests (fits.before due) pauses whole (Timestamp.ofUnix 0)
      -- the attempt reads the record that has stood before
      have same : last.record = first.record := by
        refine Option.some.inj (served.sees.symm.trans ?_)
        rw [record?, server_eq]
        exact sees
      obtain rfl : last = first := by
        have again := served.stands
        rw [served.sightings_eq, sightings_eq, standing?, stands] at again
        simpa [same] using again.symm
      have now_le : v'.candidate.now = wake := served.now_eq.trans now_eq
      refine (served.acquires (fits.before (now_le ▸ due)) left fun wake' rests' => ?_).after
        (by simp [Event.isRenewal]) run
      have later : wake < wake' := now_le ▸ served.goes_on wake' rests'
      have due' := in_time served.sound rests' served.stands
      have shorter : last.since + config.takeoverDelay - wake' < gap :=
        gap_eq ▸ Nat.sub_lt_sub_left (Nat.lt_of_lt_of_le later due') later
      exact ih _ shorter served.sound rests' served.stands served.record_eq rfl

/-- The record that an attempt has read is the last one if the holder does not write again. -/
theorem Served.acquires_last {first : Observed} (h : Served identity config v v' first)
    (left : first.record.leaseTransitions ≠ some Json.int32Max)
    (fits : config.Fits (v.candidate.now + config.takeoverDelay))
    (pauses : 0 < config.retryPeriod.nanos) (whole : nanosPerMilli ∣ config.retryPeriod.nanos) :
    Acquires identity config v' first := by
  have now_fits : config.Fits v'.candidate.now :=
    fits.before (h.now_eq ▸ Nat.le_add_right _ _)
  have due_fits : config.Fits (first.since + config.takeoverDelay) :=
    fits.before (Nat.add_le_add_right h.past _)
  exact h.acquires now_fits left fun wake rests =>
    h.sound.acquires_from_pause rests h.stands h.record_eq left due_fits pauses whole

/-- A holder that stops writing loses the lease, since its last record stays. -/
theorem Sound.acquires {record : Record} (h : Sound identity config v)
    (open_ : v.candidate.campaign.outcome? = none) (alive : v.candidate.crash = none)
    (sees : v.record? = some record) (left : record.leaseTransitions ≠ some Json.int32Max)
    (fits : config.Fits (v.candidate.now + config.retryPeriod.nanos + config.takeoverDelay))
    (pauses : 0 < config.retryPeriod.nanos) (whole : nanosPerMilli ∣ config.retryPeriod.nanos) :
    ∃ first, Acquires identity config v first ∧ first.record = record := by
  have next_fits : config.Fits (v.candidate.now + config.retryPeriod.nanos) :=
    fits.before (Nat.le_add_right _ _)
  have now_fits : config.Fits v.candidate.now := next_fits.before (Nat.le_add_right _ _)
  cases h.stands with
  | reading reads =>
      obtain ⟨v', first, served⟩ := h.served now_fits pauses whole alive reads
      obtain rfl := Option.some.inj (served.sees.symm.trans sees)
      have acquires := served.acquires_last left
        (fits.before (Nat.add_le_add_right (Nat.le_add_right _ _) _)) pauses whole
      have serves : @Vigil.step identity v .serve = some v' := served.serves
      exact ⟨first, acquires.after (by simp [Event.isRenewal])
        (runFrom_step serves (runFrom_nil v')), rfl⟩
  | @pausing wake _ _ rests waits stands patient wake_eq shown early soon =>
      obtain ⟨between, v', first, run, served, now_eq, -, server_eq⟩ := h.next_attempt rests
        (next_fits.before soon) pauses whole (Timestamp.ofUnix 0)
      obtain rfl : first.record = record := by
        refine Option.some.inj (served.sees.symm.trans ?_)
        rw [record?, server_eq]
        exact sees
      have acquires := served.acquires_last left
        (fits.before (Nat.add_le_add_right (now_eq ▸ soon) _)) pauses whole
      exact ⟨first, acquires.after (by simp [Event.isRenewal]) run, rfl⟩
  | @writing next lease lease' first writes held timely written seen alive remembers stands =>
      obtain rfl := Option.some.inj (seen.symm.trans sees)
      exact ⟨first, h.acquires_from_write now_fits alive stands writes, rfl⟩
  | acquired ends => cases open_.symm.trans (Campaign.outcome?_eq_some_iff.2 ends)
  | crashed _ crash => cases alive.symm.trans crash

/-- What is known of a candidate at any time. The takeover is due when the record that it sees last
has stood for the least multiple of the retry period that is not shorter than the lease duration. -/
structure Prompt (identity : String) (config : Config) (v : Vigil) : Prop where
  least : IsLeast {d | config.retryPeriod.nanos ∣ d ∧ config.leaseDuration.nanos ≤ d}
    config.takeoverDelay
  /-- The candidate does not wait longer than that. -/
  early : v.candidate.campaign.outcome? = none → ∀ first, FirstSight v.sightings first →
    v.candidate.now ≤ first.since + config.takeoverDelay
  /-- It does not write before that, and does not return. -/
  takes : ∀ mark ∈ v.candidate.minutes, mark.takes → ∃ first, FirstSight v.sightings first ∧
    mark.now = first.since + config.takeoverDelay
  /-- It returns with the lease. -/
  outcome : ∀ outcome, v.candidate.campaign.outcome? = some outcome → outcome = .acquired ∧
    ∃ first, FirstSight v.sightings first ∧
      .returned (first.since + config.takeoverDelay) .acquired ∈ v.candidate.minutes
  /-- The process ends before that only if the counter of holder changes overflows. -/
  crash : ∀ crash, v.candidate.crash = some crash → crash = .counterOverflow ∧
    ∃ first, FirstSight v.sightings first ∧
      v.candidate.now = first.since + config.takeoverDelay ∧
      first.record.leaseTransitions = some Json.int32Max
  /-- If the holder does not write again, the lease is taken over. -/
  acquires : v.candidate.campaign.outcome? = none → v.candidate.crash = none →
    config.Fits (v.candidate.now + config.retryPeriod.nanos + config.takeoverDelay) →
    ∀ record, v.record? = some record → record.leaseTransitions ≠ some Json.int32Max →
    ∃ first, Acquires identity config v first ∧ first.record = record

theorem Sound.prompt (h : Sound identity config v) (pauses : 0 < config.retryPeriod.nanos)
    (whole : nanosPerMilli ∣ config.retryPeriod.nanos) :
    Prompt identity config v where
  least := Config.isLeast_takeoverDelay pauses
  early open_ first is_first := by
    have stands := firstSight_iff.1 is_first
    cases h.stands with
    | reading reads valid waits paced =>
        obtain ⟨n, patient, now_eq⟩ := paced first stands
        exact now_eq ▸ Nat.add_le_add_left (Nat.mul_le_mul_left _ patient) _
    | pausing rests waits stood patient wake_eq shown early soon =>
        obtain rfl := Option.some.inj (stood.symm.trans stands)
        refine Nat.le_trans early ?_
        exact wake_eq ▸ Nat.add_le_add_left (Nat.mul_le_mul_left _ patient) _
    | writing writes held timely written sees alive remembers stood due =>
        obtain rfl := Option.some.inj (stood.symm.trans stands)
        exact Nat.le_of_eq due
    | acquired ends => cases open_.symm.trans (Campaign.outcome?_eq_some_iff.2 ends)
    | crashed open_ crash stood due =>
        obtain rfl := Option.some.inj (stood.symm.trans stands)
        exact Nat.le_of_eq due
  takes mark noted takes := by
    cases h.stands with
    | reading reads valid waits => exact absurd takes (by simp [waits.silent mark noted])
    | pausing rests waits => exact absurd takes (by simp [waits.silent mark noted])
    | writing writes held timely written sees alive remembers stands due at_now =>
        exact ⟨_, firstSight_iff.2 stands, (at_now mark noted takes).trans due⟩
    | acquired ends alive stands at_due =>
        exact ⟨_, firstSight_iff.2 stands, at_due mark noted takes⟩
    | crashed open_ crash stands due spent silent =>
        exact absurd takes (by simp [silent mark noted])
  outcome outcome is_outcome := by
    obtain ⟨acquired, first, stands, returned⟩ := h.returned is_outcome
    exact ⟨acquired, first, firstSight_iff.2 stands, returned⟩
  crash crash is_crash := by
    cases h.stands with
    | reading reads valid waits => cases waits.alive.symm.trans is_crash
    | pausing rests waits => cases waits.alive.symm.trans is_crash
    | writing writes held timely written sees alive => cases alive.symm.trans is_crash
    | acquired ends alive => cases alive.symm.trans is_crash
    | crashed open_ crashes stands due spent =>
        obtain rfl := Option.some.inj (crashes.symm.trans is_crash)
        exact ⟨rfl, _, firstSight_iff.2 stands, due, spent⟩
  acquires open_ alive due_fits record sees left :=
    h.acquires open_ alive sees left due_fits pauses whole

/-- An abandoned lease is taken over when its last record has stood for the least multiple of the
retry period that is not shorter than the lease duration, and nothing is written before. A validated
configuration has a retry period that is not zero (`Config.pauses_of_validate`). -/
theorem taken_over_on_time (elector : Elector) (clock : { t : Timestamp // t.IsValid })
    (start : Instant) (lease : { json : Json // IsForeign elector.identity json })
    (events : List (Event elector.identity)) (v : Vigil)
    (pauses : 0 < elector.config.retryPeriod.nanos)
    (whole : nanosPerMilli ∣ elector.config.retryPeriod.nanos) (shown : nanosPerMilli ∣ start)
    (fresh : elector.observed = none)
    (run : runFrom step (begin elector clock start lease) events = some v)
    (fits : elector.config.Fits v.candidate.now) : Prompt elector.identity elector.config v :=
  ((sound_begin fresh clock shown lease).run pauses whole run fits).prompt pauses whole

/-- A candidate that attempts every second to get a lease of three. -/
def brisk : Config where
  enabled := true
  leaseDuration := .ofSeconds 3
  renewDeadline := .ofSeconds 2
  retryPeriod := .ofSeconds 1
  resourceName := "manager-leader"
  resourceNamespace := "default"

/-- The spec of another replica's lease with a counter of holder changes. -/
def rivalSpec (transitions : Int) : Api.LeaseSpec :=
  ⟨none, some "second", none, some transitions, none⟩

def rival (transitions : Int) : Lease := ⟨{}, some (rivalSpec transitions)⟩

theorem isForeign_rival {transitions : Int} (fits : Record.IsInt32 transitions) :
    IsForeign "first" (rival transitions).toJson := by
  have isRead : (rival transitions).IsRead := by
    refine ⟨⟨.obj [], rfl⟩, ?_⟩
    rintro _ ⟨⟩
    refine ⟨_, (Api.LeaseSpec.read?_iff (rivalSpec transitions).fields_toJson).2
      ⟨rfl, rfl, rfl, Record.optional_int_of_mem ?_, rfl⟩⟩
    rintro _ ⟨⟩
    exact fits
  have read := isRead.read?_toJson
  refine ⟨LeaseServer.tidy_toJson _, _, _, read,
    Record.ofLease?_of_isRead (Lease.isRead_of_read? read), ?_, ?_⟩
  · show "second" ≠ ""
    decide
  · show "second" ≠ "first"
    decide

/-- The holder writes the lease between the first two attempts, and not again. -/
def abandoned (transitions : Int) (fits : Record.IsInt32 transitions) : List (Event "first") :=
  [.serve, .pass 500000000, .renew ⟨_, isForeign_rival fits⟩,
    .pass 1000000000, .wake (Timestamp.ofUnix 1), .serve,
    .pass 2000000000, .wake (Timestamp.ofUnix 2), .serve,
    .pass 3000000000, .wake (Timestamp.ofUnix 3), .serve,
    .pass 4000000000, .wake (Timestamp.ofUnix 4), .serve]

/-- The vigil before the lease is abandoned. -/
def watched : Vigil :=
  begin ⟨"first", brisk, none⟩ (Timestamp.ofUnix 0) 0
    ⟨_, @isForeign_rival 0 ⟨by decide, by decide⟩⟩

theorem brisk_takes_over :
    brisk.validate = .ok () ∧
    ∃ v, runFrom step watched
        (abandoned 1 ⟨by decide, by decide⟩ ++ [.serve]) = some v ∧
      v.candidate.minutes.filter Mark.takes =
        [.returned 4000000000 .acquired, .sent 4000000000] ∧
      Prompt "first" brisk v := by
  have runs : (runFrom step watched (abandoned 1 ⟨by decide, by decide⟩ ++ [.serve])).map
      (fun v => (v.candidate.minutes.filter Mark.takes, v.candidate.now)) =
        some ([.returned 4000000000 .acquired, .sent 4000000000], 4000000000) := by
    decide +kernel
  obtain ⟨v, run, shows⟩ := Option.map_eq_some_iff.1 runs
  obtain ⟨minutes_eq, now_eq⟩ : _ ∧ v.candidate.now = 4000000000 := by simpa using shows
  have fits : brisk.Fits v.candidate.now := by
    rw [now_eq]
    exact ⟨by decide, by decide, by decide⟩
  have pauses : 0 < brisk.retryPeriod.nanos := Config.pauses_of_validate rfl rfl
  exact ⟨rfl, v, run, minutes_eq, taken_over_on_time ⟨"first", brisk, none⟩ _ 0 _ _ v pauses
    (by decide) (by decide) rfl run fits⟩

/-- A counter of holder changes that has reached its end ends the process instead. -/
theorem spent_never_taken_over :
    ∃ v, runFrom step watched (abandoned Json.int32Max ⟨by decide, by decide⟩) = some v ∧
      v.candidate.crash = some .counterOverflow ∧ v.candidate.now = 4000000000 ∧
      ∀ (events : List (Event "first")) (v' : Vigil), runFrom step v events = some v' →
        v'.candidate.campaign.outcome? ≠ some .acquired := by
  have runs : (runFrom step watched (abandoned Json.int32Max ⟨by decide, by decide⟩)).map
      (fun v => (v.candidate.crash, v.candidate.now, v.candidate.campaign.outcome?,
        v.candidate.campaign.isIdle)) = some (some .counterOverflow, 4000000000, none, false) := by
    decide +kernel
  obtain ⟨v, run, shows⟩ := Option.map_eq_some_iff.1 runs
  obtain ⟨crashed, now_eq, open_, busy⟩ : v.candidate.crash = some .counterOverflow ∧
      v.candidate.now = 4000000000 ∧ v.candidate.campaign.outcome? = none ∧
      v.candidate.campaign.isIdle = false := by
    simpa using shows
  refine ⟨v, run, crashed, now_eq, fun events v' following => ?_⟩
  cases events with
  | nil =>
      obtain rfl : v = v' := by simpa using following
      simp [open_]
  | cons event events =>
      have stuck : v.step event = none := by
        cases event with
        | pass now => simp [Vigil.step, Minuted.step, crashed]
        | wake clock => simp [Vigil.step, Minuted.step, crashed]
        | serve =>
            simp only [Vigil.step, Vigil.serve]
            split
            · rfl
            · simp [Minuted.step, crashed]
        | renew lease => simp [Vigil.step, busy]
      rw [runFrom_cons, stuck] at following
      cases following

end Vigil

end GatedManager.Election
