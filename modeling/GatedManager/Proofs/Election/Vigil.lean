import GatedManager.Proofs.Election.Foreign
import GatedManager.Proofs.Election.Minutes
import GatedManager.Proofs.Election.Sightings
import Mathlib.Algebra.Order.Floor.Div

/-!
# A candidate and the holder of the lease

A candidate waits for a lease that another replica holds. It is alone with the API server, which
answers at once, and with the holder, which writes what it likes into the lease between two
attempts. The candidate sees only what its attempts read. A record that it has not seen in the
attempt before starts its wait anew.

The attempts are a retry period apart. So each comes a whole number of retry periods after the first
sight of the record seen last, and the takeover begins with the first of them that comes a lease
duration or more after it.
-/

namespace GatedManager.Election

open Api (Lease)
open Instant (nanosPerMilli)
open Simulation (LeaseServer)

/-- How many retry periods a candidate waits for a record that does not change. -/
def Config.patience (config : Config) : Nat :=
  CeilDiv.ceilDiv config.leaseDuration.nanos config.retryPeriod.nanos

/-- How long after its first sight of the last record a candidate takes the lease over. -/
def Config.takeoverDelay (config : Config) : Nat := config.retryPeriod.nanos * config.patience

theorem Config.pauses_of_validate {config : Config} (enabled : config.enabled)
    (valid : config.validate = .ok ()) : 0 < config.retryPeriod.nanos := by
  unfold Config.validate at valid
  split at valid
  case isTrue disabled => simp [enabled] at disabled
  split at valid
  case isTrue => cases valid
  split at valid
  case isTrue => cases valid
  split at valid
  case isTrue => cases valid
  case isFalse some_period => exact Nat.pos_of_ne_zero some_period

theorem Config.patience_le_iff {config : Config} (pauses : 0 < config.retryPeriod.nanos) {n : Nat} :
    config.patience ≤ n ↔ config.leaseDuration.nanos ≤ config.retryPeriod.nanos * n :=
  ceilDiv_le_iff_le_mul pauses

theorem Config.isLeast_takeoverDelay {config : Config} (pauses : 0 < config.retryPeriod.nanos) :
    IsLeast {d | config.retryPeriod.nanos ∣ d ∧ config.leaseDuration.nanos ≤ d}
      config.takeoverDelay := by
  refine ⟨⟨Nat.dvd_mul_right _ _, (patience_le_iff pauses).1 (Nat.le_refl _)⟩, ?_⟩
  rintro _ ⟨⟨n, rfl⟩, long⟩
  exact Nat.mul_le_mul_left _ ((patience_le_iff pauses).2 long)

/-- A mark of a takeover: a write goes out, or the campaign returns. -/
def Mark.takes : Mark → Bool
  | sent _ => true
  | returned _ _ => true
  | _ => false

/-- A candidate that waits for the lease of another holder. -/
structure Vigil where
  candidate : Minuted
  server : LeaseServer
  /-- The record that each attempt has read, and when. The latest comes first. -/
  sightings : List Observed := []

namespace Vigil

inductive Event (identity : String)
  /-- Time passes. -/
  | pass (now : Instant)
  /-- A timer fires. -/
  | wake (clock : { t : Timestamp // t.IsValid })
  /-- The request of the attempt is served, and the answer arrives. -/
  | serve
  /-- The holder writes the lease. -/
  | renew (lease : { json : Json // IsForeign identity json })

def Event.isRenewal {identity : String} : Event identity → Bool
  | renew _ => true
  | _ => false

def begin (elector : Elector) (clock : { t : Timestamp // t.IsValid }) (now : Instant)
    (lease : { json : Json // IsForeign elector.identity json }) : Vigil where
  candidate := .acquire elector false clock now
  server := LeaseServer.store {} (some lease)

/-- The record of the lease in the server. -/
def record? (v : Vigil) : Option Record :=
  (v.server.stored.bind Lease.read?).bind Record.ofLease?

/-- The sightings after an attempt has been answered. -/
def sighted (v : Vigil) (attempt : Attempt) : List Observed :=
  match attempt, v.record? with
  | .reading _, some record => ⟨record, v.candidate.now⟩ :: v.sightings
  | _, _ => v.sightings

/-- An answer takes no time. -/
def serve (v : Vigil) : Option Vigil :=
  match v.candidate.campaign.attempt? with
  | none => none
  | some attempt =>
    let (response, server) := v.server.respond attempt.request
    (v.candidate.step nanosPerMilli (.answer (response.answer attempt.request))).map
      fun candidate => ⟨candidate, server, v.sighted attempt⟩

def step {identity : String} (v : Vigil) : Event identity → Option Vigil
  | .pass now =>
    if v.candidate.campaign.attempt?.isNone then
      (v.candidate.step nanosPerMilli (.pass now)).map fun candidate =>
        { v with candidate := candidate }
    else none
  | .wake clock =>
    (v.candidate.step nanosPerMilli (.wake clock)).map fun candidate =>
      { v with candidate := candidate }
  | .serve => v.serve
  | .renew lease =>
    if v.candidate.campaign.isIdle then
      some { v with server := v.server.store (some lease.1) }
    else none

/-! ### What each event keeps -/

/-- A candidate that has not begun to take the lease over. -/
structure Waits (identity : String) (v : Vigil) : Prop where
  held : ∃ lease, HeldByOther identity v.server lease
  alive : v.candidate.crash = none
  silent : ∀ mark ∈ v.candidate.minutes, mark.takes = false
  remembers : v.candidate.campaign.elector.observed = standing? v.sightings

/-- Where a vigil stands. Each attempt comes a number of retry periods after the first sight of the
record seen last. -/
inductive Stands (identity : String) (config : Config) (v : Vigil) : Prop
  | reading {clock : Timestamp}
      (reads : v.candidate.campaign.stage = .acquiring (.answer (.reading clock)))
      (valid : clock.IsValid) (waits : Waits identity v)
      (paced : ∀ first, standing? v.sightings = some first → ∃ n ≤ config.patience,
        v.candidate.now = first.since + config.retryPeriod.nanos * n)
  | pausing {wake : Instant} {first : Observed} {n : Nat}
      (rests : v.candidate.campaign.stage = .acquiring (.pause wake)) (waits : Waits identity v)
      (stands : standing? v.sightings = some first) (patient : n ≤ config.patience)
      (wake_eq : wake = first.since + config.retryPeriod.nanos * n)
      (shown : nanosPerMilli ∣ wake) (early : v.candidate.now ≤ wake)
      (soon : wake ≤ v.candidate.now + config.retryPeriod.nanos)
  | writing {next : Record} {lease lease' : Lease} {first : Observed}
      (writes : v.candidate.campaign.stage = .acquiring (.answer (.replacing next lease')))
      (held : HeldByOther identity v.server lease) (timely : next.IsTimely)
      (written : Elector.renewedLease? lease next = some lease')
      (sees : v.record? = some first.record) (alive : v.candidate.crash = none)
      (remembers : v.candidate.campaign.elector.observed = some first)
      (stands : standing? v.sightings = some first)
      (due : v.candidate.now = first.since + config.takeoverDelay)
      (takes : ∀ mark ∈ v.candidate.minutes, mark.takes → mark.now = v.candidate.now)
  | acquired {first : Observed} (ends : v.candidate.campaign.stage = .ended .acquired)
      (alive : v.candidate.crash = none) (stands : standing? v.sightings = some first)
      (takes : ∀ mark ∈ v.candidate.minutes, mark.takes →
        mark.now = first.since + config.takeoverDelay)
      (returned : .returned (first.since + config.takeoverDelay) .acquired ∈ v.candidate.minutes)
  | crashed {first : Observed} (open_ : v.candidate.campaign.attempt?.isSome)
      (crash : v.candidate.crash = some .counterOverflow)
      (stands : standing? v.sightings = some first)
      (due : v.candidate.now = first.since + config.takeoverDelay)
      (spent : first.record.leaseTransitions = some Json.int32Max)
      (silent : ∀ mark ∈ v.candidate.minutes, mark.takes = false)

structure Sound (identity : String) (config : Config) (v : Vigil) : Prop where
  identity_eq : v.candidate.campaign.elector.identity = identity
  config_eq : v.candidate.campaign.elector.config = config
  uncancelled : v.candidate.campaign.cancelled = false
  shown : nanosPerMilli ∣ v.candidate.now
  stands : Stands identity config v

variable {identity : String} {config : Config} {v v' : Vigil}

/-- An attempt that reads the lease sees its record, as the same one as before or as a new one. -/
theorem Waits.sees {lease : Lease} (h : Waits identity v)
    (held : HeldByOther identity v.server lease)
    (paced : ∀ first, standing? v.sightings = some first → ∃ n ≤ config.patience,
      v.candidate.now = first.since + config.retryPeriod.nanos * n) :
    let first := v.candidate.campaign.elector.remember (Record.inLease lease) v.candidate.now
    v.record? = some first.record ∧
      standing? (⟨Record.inLease lease, v.candidate.now⟩ :: v.sightings) = some first ∧
      ∃ n ≤ config.patience,
        v.candidate.now = first.since + config.retryPeriod.nanos * n := by
  refine ⟨?_, (remember_eq h.remembers _ _).symm, ?_⟩
  · obtain ⟨json, -, found, read, -⟩ := held.stored
    rw [record?, found, Option.bind_some, read, Option.bind_some, Elector.remember_record]
    exact held.ofLease?
  · rw [Elector.remember]
    split
    case h_1 seen is_seen =>
      split
      · exact paced seen (h.remembers.symm.trans is_seen)
      · exact ⟨0, Nat.zero_le _, by simp⟩
    case h_2 => exact ⟨0, Nat.zero_le _, by simp⟩

/-- The request of an attempt that reads is answered with the lease of the holder. -/
theorem serve_reading {clock : Timestamp} {lease : Lease}
    (reads : v.candidate.campaign.attempt? = some (.reading clock))
    (alive : v.candidate.crash = none) (held : HeldByOther identity v.server lease)
    (sees : v.record? = some (Record.inLease lease)) :
    v.serve = (v.candidate.answer (.read (.ok (some lease)))).map fun candidate =>
      ⟨candidate, v.server, ⟨Record.inLease lease, v.candidate.now⟩ :: v.sightings⟩ := by
  obtain ⟨answer_eq, server_eq⟩ := held.respond_get
  simp [serve, reads, Minuted.step, alive, Attempt.request, answer_eq, server_eq, sighted, sees]

/-- What an answer to an attempt that reads leads to: `first` is what the elector has seen last. -/
structure Served (identity : String) (config : Config) (v v' : Vigil) (first : Observed) :
    Prop where
  serves : v.serve = some v'
  sound : Sound identity config v'
  server_eq : v'.server = v.server
  now_eq : v'.candidate.now = v.candidate.now
  past : first.since ≤ v.candidate.now
  sees : v.record? = some first.record
  stands : standing? v'.sightings = some first
  sightings_eq : v'.sightings = ⟨first.record, v.candidate.now⟩ :: v.sightings
  /-- A pause is not over yet, and no attempt reads. -/
  goes_on : ∀ wake, v'.candidate.campaign.stage = .acquiring (.pause wake) →
    v'.candidate.now < wake
  answered : v'.candidate.crash = none → v'.candidate.isReading = false

/-- An attempt that reads a lease: `first` is what the elector has seen last when it has read it,
`n` retry periods ago. -/
structure Reads (identity : String) (config : Config) (v : Vigil) (clock : Timestamp)
    (lease : Lease) (first : Observed) (n : Nat) : Prop where
  sound : Sound identity config v
  reads : v.candidate.campaign.stage = .acquiring (.answer (.reading clock))
  valid : clock.IsValid
  waits : Waits identity v
  held : HeldByOther identity v.server lease
  past : v.candidate.campaign.elector.RemembersPast v.candidate.now
  remembers : v.candidate.campaign.elector.remember (Record.inLease lease) v.candidate.now = first
  sees : v.record? = some first.record
  stands : standing? (⟨Record.inLease lease, v.candidate.now⟩ :: v.sightings) = some first
  patient : n ≤ config.patience
  now_eq : v.candidate.now = first.since + config.retryPeriod.nanos * n

namespace Reads

variable {clock : Timestamp} {lease : Lease} {first : Observed} {n : Nat}
  (h : Reads identity config v clock lease first n)
include h

theorem attempt? : v.candidate.campaign.attempt? = some (.reading clock) := by
  rw [Campaign.attempt?, h.reads]

theorem record_eq : first.record = Record.inLease lease := by
  rw [← h.remembers, Elector.remember_record]

theorem serve_eq : v.serve = (v.candidate.answer (.read (.ok (some lease)))).map fun candidate =>
    ⟨candidate, v.server, ⟨Record.inLease lease, v.candidate.now⟩ :: v.sightings⟩ :=
  serve_reading h.attempt? h.waits.alive h.held (h.record_eq ▸ h.sees)

theorem other :
    (Record.inLease lease).holder ≠ v.candidate.campaign.elector.identity :=
  h.sound.identity_eq.symm ▸ h.held.other

theorem reaches (fits : config.Fits v.candidate.now) :
    Instant.reaches v.candidate.now v.candidate.campaign.elector.config.leaseDuration :=
  h.sound.config_eq.symm ▸ fits.lease

/-- The record has stood for the lease duration at the last of the attempts, and not before. -/
theorem over_iff (pauses : 0 < config.retryPeriod.nanos) :
    (v.candidate.campaign.elector.remember (Record.inLease lease) v.candidate.now).since +
        v.candidate.campaign.elector.config.leaseDuration.nanos ≤ v.candidate.now ↔
      n = config.patience := by
  rw [h.remembers, h.sound.config_eq, h.now_eq, Nat.add_le_add_iff_left,
    ← Config.patience_le_iff pauses]
  exact ⟨Nat.le_antisymm h.patient, fun same => Nat.le_of_eq same.symm⟩

theorem due (last : n = config.patience) :
    v.candidate.now = first.since + config.takeoverDelay := by
  rw [h.now_eq, last, Config.takeoverDelay]

/-- The vigil after the attempt has read the lease. -/
theorem leads {candidate : Minuted}
    (answers : v.candidate.answer (.read (.ok (some lease))) = some candidate)
    (sound : Sound identity config
      ⟨candidate, v.server, ⟨Record.inLease lease, v.candidate.now⟩ :: v.sightings⟩)
    (now_eq : candidate.now = v.candidate.now)
    (goes_on : ∀ wake, candidate.campaign.stage = .acquiring (.pause wake) →
      candidate.now < wake)
    (answered : candidate.crash = none → candidate.isReading = false) :
    ∃ v', Served identity config v v' first := by
  refine ⟨_, ?_, sound, rfl, now_eq, ?_, h.sees, h.stands, ?_, goes_on, answered⟩
  · rw [h.serve_eq, answers, Option.map_some]
  · exact h.now_eq ▸ Nat.le_add_right _ _
  · rw [h.record_eq]

/-- Before that the lease is left alone, and the next attempt follows after a retry period. -/
theorem respected (fits : config.Fits v.candidate.now) (pauses : 0 < config.retryPeriod.nanos)
    (whole : nanosPerMilli ∣ config.retryPeriod.nanos) (early : n < config.patience) :
    ∃ v', Served identity config v v' first := by
  let elector := { v.candidate.campaign.elector with observed := some first }
  let wake := v.candidate.now + config.retryPeriod.nanos
  have lives := Nat.lt_of_not_le fun expired =>
    absurd ((h.over_iff pauses).1 expired) (Nat.ne_of_lt early)
  have respected : v.candidate.campaign.elector.advance (.reading clock) _ _ = _ :=
    Elector.advance_respected h.held.isRead h.past (h.reaches fits) h.other h.held.held lives
  rw [h.remembers] at respected
  have is_held : false = true ↔ (.ok false : Except AttemptError Bool) = .ok true := by simp
  have ended := Minuted.answer_ended h.attempt? rfl is_held respected
  have timer : Instant.timer v.candidate.now config.retryPeriod = wake :=
    Instant.timer_of_dvd h.sound.shown whole fits.retry
  have pausing : v.candidate.campaign.conclude elector false v.candidate.now =
      ⟨elector, false, .acquiring (.pause wake)⟩ := by
    simp [Campaign.conclude, h.reads, h.sound.uncancelled, Campaign.pauseFrom, h.sound.config_eq,
      timer, elector]
  rw [pausing] at ended
  have silent : ∀ mark ∈ Mark.ended v.candidate.now false :: v.candidate.minutes,
      mark.takes = false := List.forall_mem_cons.2 ⟨rfl, h.waits.silent⟩
  have wake_eq : wake = first.since + config.retryPeriod.nanos * (n + 1) := by
    rw [Nat.mul_succ, ← Nat.add_assoc, ← h.now_eq]
  have shown : nanosPerMilli ∣ wake := Nat.dvd_add h.sound.shown whole
  refine h.leads ended ⟨h.sound.identity_eq, h.sound.config_eq, rfl, h.sound.shown, ?_⟩ rfl ?_
    fun _ => rfl
  · exact .pausing rfl ⟨h.waits.held, h.waits.alive, silent, h.stands.symm⟩ h.stands early wake_eq
      shown (Nat.le_add_right _ _) (Nat.le_refl _)
  · rintro _ ⟨⟩
    exact Nat.lt_add_of_pos_right pauses

/-- At the last of the attempts a write goes out. -/
theorem taken (fits : config.Fits v.candidate.now) (pauses : 0 < config.retryPeriod.nanos)
    (last : n = config.patience)
    (left : (Record.inLease lease).leaseTransitions.getD 0 < Json.int32Max) :
    ∃ v', Served identity config v v' first := by
  let elector := { v.candidate.campaign.elector with observed := some first }
  obtain ⟨next, lease', timely, written, taken⟩ :=
    Elector.advance_taken h.held.isRead h.past (h.reaches fits) h.other h.valid
      ((h.over_iff pauses).2 last) left
  rw [h.remembers] at taken
  have sent := Minuted.answer_sent h.attempt? rfl rfl taken
  have writing : v.candidate.campaign.attempting elector (.replacing next lease') =
      ⟨elector, false, .acquiring (.answer (.replacing next lease'))⟩ := by
    simp [Campaign.attempting, h.reads, h.sound.uncancelled]
  rw [writing] at sent
  have takes : ∀ mark ∈ Mark.sent v.candidate.now :: v.candidate.minutes,
      mark.takes → mark.now = v.candidate.now := by
    refine List.forall_mem_cons.2 ⟨fun _ => rfl, fun mark noted takes => ?_⟩
    exact absurd takes (by simp [h.waits.silent mark noted])
  refine h.leads sent ⟨h.sound.identity_eq, h.sound.config_eq, rfl, h.sound.shown, ?_⟩ rfl ?_
    fun _ => rfl
  · exact .writing rfl h.held timely written h.sees h.waits.alive rfl h.stands (h.due last) takes
  · rintro _ ⟨⟩

/-- A counter of holder changes that has reached its end ends the process instead. -/
theorem spent (fits : config.Fits v.candidate.now) (pauses : 0 < config.retryPeriod.nanos)
    (last : n = config.patience)
    (spent : Json.int32Max ≤ (Record.inLease lease).leaseTransitions.getD 0) :
    ∃ v', Served identity config v v' first := by
  have crashed := Minuted.answer_crashed h.attempt? rfl
    (Elector.advance_spent h.held.isRead h.past (h.reaches fits) h.other
      ((h.over_iff pauses).2 last) spent)
  have counter : first.record.leaseTransitions = some Json.int32Max :=
    h.record_eq ▸ Record.transitions_of_spent h.held.isRead spent
  have waits := Option.isSome_of_eq_some h.attempt?
  refine h.leads crashed ⟨h.sound.identity_eq, h.sound.config_eq, h.sound.uncancelled,
    h.sound.shown, ?_⟩ rfl ?_ ?_
  · exact .crashed waits rfl h.stands (h.due last) counter h.waits.silent
  · intro wake rests
    cases h.reads.symm.trans rests
  · rintro ⟨⟩

theorem served (fits : config.Fits v.candidate.now) (pauses : 0 < config.retryPeriod.nanos)
    (whole : nanosPerMilli ∣ config.retryPeriod.nanos) :
    ∃ v', Served identity config v v' first := by
  rcases Nat.lt_or_eq_of_le h.patient with early | last
  · exact h.respected fits pauses whole early
  · rcases Int.lt_or_le ((Record.inLease lease).leaseTransitions.getD 0) Json.int32Max with
      left | spent
    · exact h.taken fits pauses last left
    · exact h.spent fits pauses last spent

end Reads

/-- Every attempt that reads is served. -/
theorem Sound.served {clock : Timestamp} (h : Sound identity config v)
    (fits : config.Fits v.candidate.now) (pauses : 0 < config.retryPeriod.nanos)
    (whole : nanosPerMilli ∣ config.retryPeriod.nanos) (alive : v.candidate.crash = none)
    (reads : v.candidate.campaign.stage = .acquiring (.answer (.reading clock))) :
    ∃ v' first, Served identity config v v' first := by
  cases h.stands with
  | @reading clock reads valid waits paced =>
      obtain ⟨lease, held⟩ := waits.held
      obtain ⟨sees, stands, n, patient, now_eq⟩ := waits.sees held paced
      have past : v.candidate.campaign.elector.RemembersPast v.candidate.now := by
        intro seen is_seen
        obtain ⟨m, -, now_eq⟩ := paced seen (waits.remembers.symm.trans is_seen)
        exact now_eq ▸ Nat.le_add_right _ _
      have attempt : Reads identity config v clock lease _ n :=
        ⟨h, reads, valid, waits, held, past, rfl, sees, stands, patient, now_eq⟩
      obtain ⟨v', served⟩ := attempt.served fits pauses whole
      exact ⟨v', _, served⟩
  | pausing rests => cases reads.symm.trans rests
  | writing writes => cases reads.symm.trans writes
  | acquired ends => cases reads.symm.trans ends
  | crashed _ crash => cases alive.symm.trans crash

/-- The write is stored, and the lease is acquired. -/
theorem Sound.stored {next : Record} {lease' : Lease} (h : Sound identity config v)
    (fits : config.Fits v.candidate.now) (alive : v.candidate.crash = none)
    (writes : v.candidate.campaign.stage = .acquiring (.answer (.replacing next lease'))) :
    ∃ v', v.serve = some v' ∧ Sound identity config v' ∧ v'.sightings = v.sightings ∧
      v'.candidate.campaign.outcome? = some .acquired := by
  cases h.stands with
  | @writing next lease lease' first writes held timely written sees alive remembers stands due
      takes =>
      have waits : v.candidate.campaign.attempt? = some (.replacing next lease') := by
        rw [Campaign.attempt?, writes]
      have past : v.candidate.campaign.elector.RemembersPast v.candidate.now := by
        intro seen is_seen
        obtain rfl := Option.some.inj (remembers.symm.trans is_seen)
        exact due ▸ Nat.le_add_right _ _
      have reaches : Instant.reaches v.candidate.now
          v.candidate.campaign.elector.config.leaseDuration := h.config_eq.symm ▸ fits.lease
      let elector := { v.candidate.campaign.elector with
        observed := some (v.candidate.campaign.elector.remember next v.candidate.now) }
      have wins : v.candidate.campaign.elector.advance (.replacing next lease')
          (.written (.ok ())) v.candidate.now = .ok (elector, .finished (.ok true)) := by
        rw [Elector.advance, Elector.onWritten, past.exists_observe reaches]
      have acquired : v.candidate.campaign.conclude elector true v.candidate.now =
          ⟨elector, false, .ended .acquired⟩ := by
        simp [Campaign.conclude, writes, h.uncancelled]
      have is_held : true = true ↔ (.ok true : Except AttemptError Bool) = .ok true := by simp
      have ended := Minuted.answer_ended waits rfl is_held wins
      rw [acquired] at ended
      have serves : v.serve = (v.candidate.answer (.written (.ok ()))).map fun candidate =>
          ⟨candidate, (v.server.respond (.replace lease')).2, v.sightings⟩ := by
        simp [serve, waits, Minuted.step, alive, Attempt.request,
          held.respond_replace timely written, sighted]
      have at_due : ∀ mark ∈ Mark.returned v.candidate.now .acquired ::
          .ended v.candidate.now true :: v.candidate.minutes,
          mark.takes → mark.now = first.since + config.takeoverDelay := by
        rw [← due]
        exact List.forall_mem_cons.2
          ⟨fun _ => rfl, List.forall_mem_cons.2 ⟨fun _ => rfl, takes⟩⟩
      rw [ended, Option.map_some] at serves
      refine ⟨_, serves, ?_, rfl, rfl⟩
      exact
        { identity_eq := h.identity_eq
          config_eq := h.config_eq
          uncancelled := rfl
          shown := h.shown
          stands := .acquired rfl alive stands at_due (due ▸ List.mem_cons_self ..) }
  | reading reads => cases writes.symm.trans reads
  | pausing rests => cases writes.symm.trans rests
  | acquired ends => cases writes.symm.trans ends
  | crashed _ crash => cases alive.symm.trans crash

/-- A candidate that is alive seeks the lease or has it. -/
theorem Sound.stage (h : Sound identity config v) (alive : v.candidate.crash = none) :
    (∃ wait, v.candidate.campaign.stage = .acquiring wait) ∨
      v.candidate.campaign.stage = .ended .acquired := by
  cases h.stands with
  | reading reads => exact .inl ⟨_, reads⟩
  | pausing rests => exact .inl ⟨_, rests⟩
  | writing writes => exact .inl ⟨_, writes⟩
  | acquired ends => exact .inr ends
  | crashed _ crash => cases alive.symm.trans crash

theorem Sound.of_pause {wake : Instant} (h : Sound identity config v)
    (pauses : v.candidate.campaign.stage = .acquiring (.pause wake)) :
    Waits identity v ∧ ∃ first n, standing? v.sightings = some first ∧ n ≤ config.patience ∧
      wake = first.since + config.retryPeriod.nanos * n ∧ nanosPerMilli ∣ wake ∧
      v.candidate.now ≤ wake ∧ wake ≤ v.candidate.now + config.retryPeriod.nanos := by
  cases h.stands with
  | pausing rests waits stands patient wake_eq shown early soon =>
      cases pauses.symm.trans rests
      exact ⟨waits, _, _, stands, patient, wake_eq, shown, early, soon⟩
  | reading reads => cases pauses.symm.trans reads
  | writing writes => cases pauses.symm.trans writes
  | acquired ends => cases pauses.symm.trans ends
  | crashed open_ => simp [Campaign.attempt?, pauses] at open_

theorem Sound.pass {now : Instant} {candidate : Minuted} (h : Sound identity config v)
    (idle : v.candidate.campaign.attempt? = none)
    (hs : v.candidate.step nanosPerMilli (.pass now) = some candidate) :
    Sound identity config { v with candidate := candidate } := by
  obtain ⟨alive, advances⟩ := Minuted.advances_of_step hs
  cases advances with
  | passed later whole early =>
      refine ⟨h.identity_eq, h.config_eq, h.uncancelled, whole, ?_⟩
      cases h.stands with
      | reading reads => simp [Campaign.attempt?, reads] at idle
      | @pausing wake first n rests waits stands patient wake_eq shown _ soon =>
          have in_time := early wake (by simp [Campaign.timer?, rests])
          exact .pausing rests ⟨waits.held, waits.alive, waits.silent, waits.remembers⟩ stands
            patient wake_eq shown in_time (Nat.le_trans soon (Nat.add_le_add_right later _))
      | writing writes => simp [Campaign.attempt?, writes] at idle
      | acquired ends alive stands takes returned => exact .acquired ends alive stands takes returned
      | crashed _ crash => cases alive.symm.trans crash

/-- The end of a pause comes at its very instant, and an attempt begins to read. -/
theorem Sound.wake {clock : { t : Timestamp // t.IsValid }} {candidate : Minuted}
    (h : Sound identity config v)
    (hs : v.candidate.step nanosPerMilli (.wake clock) = some candidate) :
    Sound identity config { v with candidate := candidate } := by
  obtain ⟨alive, advances⟩ := Minuted.advances_of_step hs
  cases advances with
  | retried pauses due =>
      refine ⟨h.identity_eq, h.config_eq, h.uncancelled, h.shown, ?_⟩
      obtain ⟨waits, first, n, stands, patient, rfl, -, early, -⟩ := h.of_pause pauses
      have silent : ∀ mark ∈ Mark.began v.candidate.now :: v.candidate.minutes,
          mark.takes = false := List.forall_mem_cons.2 ⟨rfl, waits.silent⟩
      refine .reading rfl clock.2 ⟨waits.held, waits.alive, silent, waits.remembers⟩ ?_
      intro seen is_seen
      obtain rfl := Option.some.inj (stands.symm.trans is_seen)
      exact ⟨n, patient, Nat.le_antisymm early due⟩
  | opened rests due =>
      rcases h.stage alive with ⟨wait, seeks⟩ | ends
      · cases rests.symm.trans seeks
      · cases rests.symm.trans ends
  | again pauses early due =>
      rcases h.stage alive with ⟨wait, seeks⟩ | ends
      · cases pauses.symm.trans seeks
      · cases pauses.symm.trans ends
  | lost renews closed unnoticed =>
      rcases h.stage alive with ⟨wait, seeks⟩ | ends
      · cases renews.symm.trans seeks
      · cases renews.symm.trans ends

theorem Sound.renew (h : Sound identity config v)
    (lease : { json : Json // IsForeign identity json }) (idles : v.candidate.campaign.isIdle) :
    Sound identity config { v with server := v.server.store (some lease.1) } := by
  refine ⟨h.identity_eq, h.config_eq, h.uncancelled, h.shown, ?_⟩
  obtain ⟨wake, pauses⟩ : ∃ wake, v.candidate.campaign.stage = .acquiring (.pause wake) := by
    cases h.stands with
    | reading reads => simp [Campaign.isIdle, reads] at idles
    | pausing rests => exact ⟨_, rests⟩
    | writing writes => simp [Campaign.isIdle, writes] at idles
    | acquired ends => simp [Campaign.isIdle, ends] at idles
    | crashed open_ =>
        obtain ⟨attempt, waits⟩ := Option.isSome_iff_exists.1 open_
        rcases Campaign.attempt?_eq_some_iff.1 waits with stage | ⟨deadline, stage⟩
        · simp [Campaign.isIdle, stage] at idles
        · simp [Campaign.isIdle, stage] at idles
  obtain ⟨waits, first, n, stands, patient, wake_eq, shown, early, soon⟩ := h.of_pause pauses
  exact .pausing pauses ⟨HeldByOther.store v.server lease.2, waits.alive, waits.silent,
    waits.remembers⟩ stands patient wake_eq shown early soon

theorem Sound.serve (h : Sound identity config v) (fits : config.Fits v.candidate.now)
    (pauses : 0 < config.retryPeriod.nanos) (whole : nanosPerMilli ∣ config.retryPeriod.nanos)
    (hs : v.serve = some v') : Sound identity config v' := by
  cases h.stands with
  | reading reads valid waits =>
      obtain ⟨after, first, served⟩ := h.served fits pauses whole waits.alive reads
      obtain rfl := Option.some.inj (served.serves.symm.trans hs)
      exact served.sound
  | writing writes held timely written sees alive =>
      obtain ⟨after, stored, sound, -⟩ := h.stored fits alive writes
      obtain rfl := Option.some.inj (stored.symm.trans hs)
      exact sound
  | pausing rests => simp [Vigil.serve, Campaign.attempt?, rests] at hs
  | acquired ends => simp [Vigil.serve, Campaign.attempt?, ends] at hs
  | crashed open_ crash =>
      obtain ⟨attempt, waits⟩ := Option.isSome_iff_exists.1 open_
      simp [Vigil.serve, waits, Minuted.step, crash] at hs

/-- The ways in which a vigil goes on. -/
inductive Advances (v : Vigil) : Event identity → Vigil → Prop
  | passed {now : Instant} {candidate : Minuted} (idle : v.candidate.campaign.attempt? = none)
      (passes : v.candidate.step nanosPerMilli (.pass now) = some candidate) :
      Advances v (.pass now) { v with candidate := candidate }
  | woken {clock : { t : Timestamp // t.IsValid }} {candidate : Minuted}
      (wakes : v.candidate.step nanosPerMilli (.wake clock) = some candidate) :
      Advances v (.wake clock) { v with candidate := candidate }
  | served {after : Vigil} (serves : v.serve = some after) : Advances v .serve after
  | renewed {lease : { json : Json // IsForeign identity json }}
      (idles : v.candidate.campaign.isIdle) :
      Advances v (.renew lease) { v with server := v.server.store (some lease.1) }

variable {event : Event identity}

theorem advances_of_step (hs : v.step event = some v') : Advances v event v' := by
  cases event with
  | pass now =>
      simp only [Vigil.step] at hs
      split at hs
      case isFalse => cases hs
      case isTrue idle =>
        obtain ⟨candidate, passes, rfl⟩ := Option.map_eq_some_iff.1 hs
        exact .passed (Option.isNone_iff_eq_none.1 idle) passes
  | wake clock =>
      obtain ⟨candidate, wakes, rfl⟩ := Option.map_eq_some_iff.1 hs
      exact .woken wakes
  | serve => exact .served hs
  | renew lease =>
      simp only [Vigil.step] at hs
      split at hs
      case isFalse => cases hs
      case isTrue idles =>
        obtain rfl := Option.some.inj hs
        exact .renewed idles

theorem Sound.advance (h : Sound identity config v) (fits : config.Fits v.candidate.now)
    (pauses : 0 < config.retryPeriod.nanos) (whole : nanosPerMilli ∣ config.retryPeriod.nanos)
    (advances : Advances v event v') : Sound identity config v' := by
  cases advances with
  | passed idle passes => exact h.pass idle passes
  | woken wakes => exact h.wake wakes
  | served serves => exact h.serve fits pauses whole serves
  | renewed idles => exact h.renew _ idles

theorem Advances.now_le (h : Advances v event v') : v.candidate.now ≤ v'.candidate.now := by
  cases h with
  | passed idle passes => exact (Minuted.advances_of_step passes).2.now_le
  | woken wakes => exact (Minuted.advances_of_step wakes).2.now_le
  | served serves =>
      unfold Vigil.serve at serves
      split at serves
      case h_1 => cases serves
      case h_2 =>
        obtain ⟨candidate, answers, rfl⟩ := Option.map_eq_some_iff.1 serves
        exact (Minuted.advances_of_step answers).2.now_le
  | renewed idles => exact Nat.le_refl _

theorem sound_begin {elector : Elector} (fresh : elector.observed = none)
    (clock : { t : Timestamp // t.IsValid }) {start : Instant} (shown : nanosPerMilli ∣ start)
    (lease : { json : Json // IsForeign elector.identity json }) :
    Sound elector.identity elector.config (begin elector clock start lease) := by
  refine ⟨rfl, rfl, rfl, shown, .reading rfl clock.2 ?_ nofun⟩
  exact ⟨HeldByOther.store {} lease.2, rfl, by simp [begin, Minuted.acquire, Mark.takes], fresh⟩

theorem Sound.run {events : List (Event identity)} (h : Sound identity config v)
    (pauses : 0 < config.retryPeriod.nanos) (whole : nanosPerMilli ∣ config.retryPeriod.nanos)
    (run : runFrom Vigil.step v events = some v') (fits : config.Fits v'.candidate.now) :
    Sound identity config v' := by
  refine runFrom_invariant
    (P := fun v => config.Fits v.candidate.now → Sound identity config v)
    (fun s event s' ih hs fits => ?_) (fun _ => h) run fits
  have advances := advances_of_step hs
  have before := fits.before advances.now_le
  exact (ih before).advance before pauses whole advances

end Vigil

end GatedManager.Election
