import GatedManager.Proofs.Election.Foreign
import GatedManager.Proofs.Runs

/-!
# The calls of a candidate

A candidate asks for the lease in one call after the other. A call may be dropped while it waits
for an answer, and what the API says is left open: it may bring any lease that can be decoded,
with any times, any counter of holder changes and any holder or none.

The content of a lease can end the process in one way only. A lease that nobody holds, or that
another holder has let expire, is taken over with a counter that is greater by one, and the counter
of 32 bits may be at its end.
-/

namespace GatedManager.Election

open Api (Lease)

/-- Whether the lease of an answer, if there is one, was decoded. -/
def Answer.IsDecoded : Answer → Prop
  | read (.ok (some lease)) => lease.IsRead
  | _ => True

/-- How many changes of its holder a lease counts. -/
def Record.changes (lease : Lease) : Int := (inLease lease).leaseTransitions.getD 0

theorem Record.changes_le {lease : Lease} (read : lease.IsRead) :
    changes lease ≤ Json.int32Max := by
  refine Int.not_lt.1 fun beyond => ?_
  have spent := transitions_of_spent read (Int.le_of_lt beyond)
  exact absurd beyond (by simp [changes, spent])

/-- A lease that is written carries the record it was written with. -/
theorem Record.inLease_renewed {lease lease' : Lease} {record : Record} (timely : record.IsTimely)
    (written : Elector.renewedLease? lease record = some lease') :
    inLease lease' = record.cut := by
  obtain ⟨spec, fits, rfl⟩ := Option.map_eq_some_iff.1 written
  simp [inLease, ofSpec_of_toLeaseSpec? timely fits]

structure Candidate where
  elector : Elector
  now : Instant
  /-- The call that waits for an answer. -/
  call : Option Attempt := none
  /-- The leases that were taken over from another holder or from none, as they were read and as
  they were sent. The latest comes first. -/
  takeovers : List (Lease × Lease) := []
  /-- The arithmetic without a result that has ended the process. -/
  crash : Option Crash := none

namespace Candidate

inductive Event
  /-- Time passes. -/
  | pass (now : Instant)
  /-- A call begins, in the place of one that is dropped. -/
  | call (clock : { t : Timestamp // t.IsValid })
  | answer (answer : { a : Answer // a.IsDecoded })

def begin (elector : Elector) (now : Instant) : Candidate := { elector := elector, now := now }

/-- The takeovers after a request that follows an answer. -/
def takeoversAfter (c : Candidate) (answer : Answer) (next : Attempt) : List (Lease × Lease) :=
  match answer, next with
  | .read (.ok (some lease)), .replacing _ sent =>
    if (Record.inLease lease).holder = c.elector.identity then c.takeovers
    else (lease, sent) :: c.takeovers
  | _, _ => c.takeovers

def answer (c : Candidate) (answer : Answer) : Option Candidate :=
  match c.call with
  | none => none
  | some attempt =>
    if attempt.awaits answer then
      match c.elector.advance attempt answer c.now with
      | .error crash => some { c with crash := some crash }
      | .ok (elector, .waiting next) => some { c with
          elector := elector
          call := some next
          takeovers := c.takeoversAfter answer next }
      | .ok (elector, .finished _) => some { c with elector := elector, call := none }
    else none

/-- What follows an event, `none` when the event is not possible. Nothing follows a crash. -/
def step (c : Candidate) (event : Event) : Option Candidate :=
  if c.crash.isSome then none
  else match event with
  | .pass now => if c.now ≤ now then some { c with now := now } else none
  | .call clock => some { c with call := some (.reading clock) }
  | .answer answer => c.answer answer

/-- Whether the lease is to be taken over: it has another holder or none, and in the first case its
record has stood for the lease duration. -/
def isDue (c : Candidate) (lease : Lease) : Bool :=
  let record := Record.inLease lease
  record.holder ≠ c.elector.identity ∧ (record.holder = "" ∨
    (c.elector.remember record c.now).since + c.elector.config.leaseDuration.nanos ≤ c.now)

/-- Whether a call reads a lease that is to be taken over and whose counter is at its end. -/
def isSpent (c : Candidate) : Event → Bool
  | .answer ⟨.read (.ok (some lease)), _⟩ =>
    c.call.any (!·.isWrite) && c.isDue lease && Record.changes lease = Json.int32Max
  | _ => false

/-- Whether no call of a candidate with these settings ends the process in a run without the barred
events, and each takeover counts more changes than the lease that was read, as long as the clock
reaches the end of a lease. -/
def Endures (barred : Candidate → Event → Bool) (config : Config) : Prop :=
  ∀ (identity : String) (start : Instant) (events : List Event) (c : Candidate),
    runFrom (barring step barred) (begin ⟨identity, config, none⟩ start) events = some c →
    Instant.reaches c.now config.leaseDuration →
    c.crash = none ∧ ∀ t ∈ c.takeovers, Record.changes t.1 < Record.changes t.2

variable {c c' : Candidate} {event : Event} {events : List Event} {config : Config}

/-! ### What an event does -/

/-- The ways in which a candidate goes on. -/
inductive Advances (c : Candidate) : Event → Candidate → Prop
  | passed {now : Instant} (later : c.now ≤ now) : Advances c (.pass now) { c with now := now }
  | called (clock : { t : Timestamp // t.IsValid }) :
      Advances c (.call clock) { c with call := some (.reading clock) }
  /-- An answer leads to arithmetic without a result. -/
  | crashed {attempt : Attempt} {answer : { a : Answer // a.IsDecoded }} {crash : Crash}
      (waits : c.call = some attempt)
      (crashes : c.elector.advance attempt answer c.now = .error crash) :
      Advances c (.answer answer) { c with crash := some crash }
  /-- The call sends its next request. -/
  | asked {attempt next : Attempt} {answer : { a : Answer // a.IsDecoded }} {elector : Elector}
      (waits : c.call = some attempt) (awaited : attempt.awaits answer = true)
      (advances : Elector.Advances c.elector c.now attempt answer elector (.waiting next)) :
      Advances c (.answer answer) { c with
        elector := elector
        call := some next
        takeovers := c.takeoversAfter answer next }
  | ended {attempt : Attempt} {answer : { a : Answer // a.IsDecoded }} {elector : Elector}
      {result : Except AttemptError Bool} (waits : c.call = some attempt)
      (advances : Elector.Advances c.elector c.now attempt answer elector (.finished result)) :
      Advances c (.answer answer) { c with elector := elector, call := none }

theorem advances_answer {answer : { a : Answer // a.IsDecoded }}
    (h : c.answer answer = some c') : Advances c (.answer answer) c' := by
  unfold Candidate.answer at h
  split at h
  case h_1 => cases h
  case h_2 attempt waits =>
    split at h
    case isFalse => cases h
    case isTrue awaited =>
      split at h
      case h_1 crash crashes =>
        obtain rfl := Option.some.inj h
        exact .crashed waits crashes
      case h_2 elector next is_step =>
        obtain rfl := Option.some.inj h
        exact .asked waits awaited (Elector.advances_of_advance is_step)
      case h_3 elector result is_step =>
        obtain rfl := Option.some.inj h
        exact .ended waits (Elector.advances_of_advance is_step)

theorem advances_of_step (h : c.step event = some c') : Advances c event c' := by
  unfold Candidate.step at h
  split at h
  case isTrue => cases h
  case isFalse =>
    cases event with
    | pass now =>
        simp only at h
        split at h
        case isFalse => cases h
        case isTrue later =>
          obtain rfl := Option.some.inj h
          exact .passed later
    | call clock =>
        obtain rfl := Option.some.inj h
        exact .called clock
    | answer answer => exact advances_answer h

theorem now_le_of_step (h : c.step event = some c') : c.now ≤ c'.now := by
  cases advances_of_step h with
  | passed later => exact later
  | _ => exact Nat.le_refl c.now

/-! ### What the calls keep -/

/-- What is known of a candidate in every run. -/
structure Sound (config : Config) (c : Candidate) : Prop where
  config_eq : c.elector.config = config
  past : c.elector.RemembersPast c.now
  valid : ∀ clock, c.call = some (.reading clock) → clock.IsValid
  counted : ∀ t ∈ c.takeovers, Record.changes t.1 < Record.changes t.2

theorem sound_begin (identity : String) (config : Config) (start : Instant) :
    Sound config (begin ⟨identity, config, none⟩ start) :=
  ⟨rfl, nofun, nofun, by simp [begin]⟩

/-- A lease that is taken over from another holder or from none counts one change more. -/
theorem changes_of_due {lease sent : Lease} {next : Record} {identity : String}
    {clock : Timestamp} {d : Duration} {expired : Bool} (read : lease.IsRead)
    (valid : clock.IsValid) (other : (Record.inLease lease).holder ≠ identity)
    (due : (Record.inLease lease).next? identity clock d expired = .ok (some next))
    (written : Elector.renewedLease? lease next = some sent) :
    Record.changes sent = Record.changes lease + 1 := by
  have timely := Record.isTimely_of_next? (Record.isTimely_inLease read) valid due
  rw [Record.changes, Record.inLease_renewed timely written, Record.eq_of_next? due]
  simp [Record.cut, Record.changes, other]

/-- The takeovers after a request count more changes, as those before it did. -/
theorem Sound.counted_after (h : Sound config c) {attempt next : Attempt} {answer : Answer}
    {elector : Elector} (decoded : answer.IsDecoded) (waits : c.call = some attempt)
    (awaited : attempt.awaits answer = true)
    (advances : Elector.Advances c.elector c.now attempt answer elector (.waiting next)) :
    ∀ t ∈ c.takeoversAfter answer next, Record.changes t.1 < Record.changes t.2 := by
  cases advances with
  | create => exact h.counted
  | stray other => exact nomatch awaited.symm.trans other
  | replace clock lease readable observed due written =>
      obtain rfl := Option.some.inj ((Record.ofLease?_of_isRead decoded).symm.trans readable)
      simp only [takeoversAfter]
      split
      case isTrue => exact h.counted
      case isFalse other =>
        refine List.forall_mem_cons.2 ⟨?_, h.counted⟩
        rw [changes_of_due decoded (h.valid clock waits) other due written]
        exact Int.lt_add_one_of_le (Int.le_refl _)

theorem Sound.step (h : Sound config c) (hs : c.step event = some c') : Sound config c' := by
  cases advances_of_step hs with
  | passed later => exact ⟨h.config_eq, h.past.pass later, h.valid, h.counted⟩
  | called clock =>
      refine ⟨h.config_eq, h.past, ?_, h.counted⟩
      rintro _ ⟨⟩
      exact clock.2
  | crashed => exact ⟨h.config_eq, h.past, h.valid, h.counted⟩
  | @asked attempt next answer _ waits awaited advances =>
      refine ⟨advances.frame.2.trans h.config_eq, advances.remembersPast h.past, ?_,
        h.counted_after answer.2 waits awaited advances⟩
      rintro clock ⟨⟩
      obtain ⟨-, -, write⟩ := advances.reads_of_waiting awaited
      cases write
  | ended waits advances =>
      exact ⟨advances.frame.2.trans h.config_eq, advances.remembersPast h.past, nofun, h.counted⟩

theorem Sound.run (h : Sound config c) (run : runFrom Candidate.step c events = some c') :
    Sound config c' :=
  runFrom_invariant (fun _ _ _ h hs => h.step hs) h run

/-! ### Which leases end the process -/

theorem isDue_iff {lease : Lease} :
    c.isDue lease = true ↔ (Record.inLease lease).holder ≠ c.elector.identity ∧
      ((Record.inLease lease).holder = "" ∨
        decide ((c.elector.remember (Record.inLease lease) c.now).since +
          c.elector.config.leaseDuration.nanos ≤ c.now) = true) := by
  simp [isDue]

/-- A lease that was read ends the process exactly if it is to be taken over and its counter is at
its end. -/
theorem Sound.crashes_iff (h : Sound config c) {lease : Lease} {clock : Timestamp} {crash : Crash}
    (read : lease.IsRead) (valid : clock.IsValid)
    (reaches : Instant.reaches c.now config.leaseDuration) :
    c.elector.advance (.reading clock) (.read (.ok (some lease))) c.now = .error crash ↔
      crash = .counterOverflow ∧ c.isDue lease = true ∧
        Record.changes lease = Json.int32Max := by
  have reaches : Instant.reaches c.now c.elector.config.leaseDuration := h.config_eq.symm ▸ reaches
  have spent_iff : Json.int32Max ≤ Record.changes lease ↔ Record.changes lease = Json.int32Max :=
    ⟨fun spent => Int.le_antisymm (Record.changes_le read) spent, fun same => Int.le_of_eq same.symm⟩
  rw [← spent_iff, isDue_iff, and_assoc]
  constructor
  · intro crashes
    obtain rfl := Elector.eq_counterOverflow_of_advance h.past reaches crashes
    refine ⟨rfl, ?_⟩
    cases due : (Record.inLease lease).next? c.elector.identity clock
        c.elector.config.leaseDuration _ with
    | error overflow => exact Record.next?_eq_error_iff.1 due
    | ok next? =>
        cases next? with
        | none => exact nomatch crashes.symm.trans (Elector.advance_left read h.past reaches due)
        | some next =>
            obtain ⟨lease', -, -, replaces⟩ :=
              Elector.advance_replaced read h.past reaches valid due
            exact nomatch crashes.symm.trans replaces
  · rintro ⟨rfl, spent⟩
    exact Elector.advance_overflows read h.past reaches (Record.next?_eq_error_iff.2 spent)

/-- Only a spent lease ends the process. -/
theorem Sound.alive (h : Sound config c) (hs : c.step event = some c') (alive : c.crash = none)
    (spared : c.isSpent event = false) (reaches : Instant.reaches c.now config.leaseDuration) :
    c'.crash = none := by
  cases advances_of_step hs with
  | @crashed attempt answer crash waits crashes =>
      obtain rfl := Elector.eq_counterOverflow_of_advance h.past (h.config_eq.symm ▸ reaches) crashes
      obtain ⟨answer, decoded⟩ := answer
      obtain ⟨clock, lease, rfl, rfl⟩ := Elector.reads_of_counterOverflow crashes
      obtain ⟨-, due, spent⟩ := (h.crashes_iff decoded (h.valid clock waits) reaches).1 crashes
      simp [isSpent, waits, Attempt.isWrite, due, spent] at spared
  | _ => exact alive

theorem alive_of_run {identity : String} {start : Instant}
    (run : runFrom (barring step isSpent) (begin ⟨identity, config, none⟩ start) events = some c)
    (reaches : Instant.reaches c.now config.leaseDuration) : c.crash = none := by
  refine (runFrom_invariant (P := fun c => Sound config c ∧
    (Instant.reaches c.now config.leaseDuration → c.crash = none)) ?_
    ⟨sound_begin identity config start, fun _ => rfl⟩ run).2 reaches
  rintro c event c' ⟨sound, alive⟩ hs
  obtain ⟨spared, hs⟩ := barring_eq_some_iff.1 hs
  refine ⟨sound.step hs, fun reaches => ?_⟩
  have before := Instant.onClock_mono (Nat.add_le_add_right (now_le_of_step hs) _) reaches
  exact sound.alive hs (alive before) spared before

theorem Sound.crashes (h : Sound config c) (alive : c.crash = none)
    (spent : c.isSpent event = true) (reaches : Instant.reaches c.now config.leaseDuration) :
    c.step event = some { c with crash := some .counterOverflow } := by
  unfold isSpent at spent
  split at spent
  case h_2 => cases spent
  case h_1 lease decoded =>
    obtain ⟨⟨attempt, waits, reads⟩, due, is_spent⟩ : (∃ attempt, c.call = some attempt ∧
        attempt.isWrite = false) ∧ c.isDue lease = true ∧
          Record.changes lease = Json.int32Max := by
      simpa [Option.any_eq_true, and_assoc] using spent
    cases attempt with
    | reading clock =>
        have crashes := (h.crashes_iff decoded (h.valid clock waits) reaches).2
          ⟨rfl, due, is_spent⟩
        simp [Candidate.step, Candidate.answer, alive, waits, Attempt.awaits, Attempt.isWrite,
          crashes]
    | creating => cases reads
    | replacing => cases reads

/-- A lease that is to be taken over and is not spent is taken over. -/
theorem Sound.takes (h : Sound config c) (alive : c.crash = none) {lease : Lease}
    {clock : Timestamp} (read : lease.IsRead) (waits : c.call = some (.reading clock))
    (due : c.isDue lease = true) (left : Record.changes lease ≠ Json.int32Max)
    (reaches : Instant.reaches c.now config.leaseDuration) :
    ∃ c' sent, c.step (.answer ⟨.read (.ok (some lease)), read⟩) = some c' ∧
      c'.takeovers = (lease, sent) :: c.takeovers := by
  have reaches : Instant.reaches c.now c.elector.config.leaseDuration := h.config_eq.symm ▸ reaches
  have fits : Record.changes lease < Json.int32Max :=
    Int.lt_iff_le_and_ne.2 ⟨Record.changes_le read, left⟩
  obtain ⟨other, free⟩ := isDue_iff.1 due
  obtain ⟨next, is_next⟩ := Record.exists_next? clock c.elector.config.leaseDuration other free fits
  obtain ⟨sent, -, -, replaces⟩ :=
    Elector.advance_replaced read h.past reaches (h.valid clock waits) is_next
  have goes_on : c.answer (.read (.ok (some lease))) = some { c with
      elector := { c.elector with observed := some (c.elector.remember (Record.inLease lease) c.now) }
      call := some (.replacing next sent)
      takeovers := c.takeoversAfter (.read (.ok (some lease))) (.replacing next sent) } := by
    simp [Candidate.answer, waits, Attempt.awaits, Attempt.isWrite, replaces]
  have is_step : c.step (.answer ⟨.read (.ok (some lease)), read⟩) =
      c.answer (.read (.ok (some lease))) := if_neg (by simp [alive])
  exact ⟨_, sent, is_step.trans goes_on, if_neg other⟩

/-- As long as the clock reaches the end of a lease, a call ends the process exactly if it reads a
lease that is to be taken over and whose counter is at its end. Every other lease that is to be
taken over is taken over, and it counts more changes of its holder then. -/
theorem endures_unspent (config : Config) :
    Endures isSpent config ∧
    ∀ (identity : String) (start : Instant) (events : List Event) (c : Candidate),
      runFrom step (begin ⟨identity, config, none⟩ start) events = some c →
      Instant.reaches c.now config.leaseDuration → c.crash = none →
      (∀ event, c.isSpent event →
        c.step event = some { c with crash := some .counterOverflow }) ∧
      ∀ (lease : Lease) (read : lease.IsRead) (clock : Timestamp),
        c.call = some (.reading clock) → c.isDue lease → Record.changes lease ≠ Json.int32Max →
        ∃ c' sent, c.step (.answer ⟨.read (.ok (some lease)), read⟩) = some c' ∧
          c'.takeovers = (lease, sent) :: c.takeovers := by
  refine ⟨?_, ?_⟩
  · intro identity start events c run reaches
    have sound := (sound_begin identity config start).run (run_of_barring run)
    exact ⟨alive_of_run run reaches, sound.counted⟩
  · intro identity start events c run reaches alive
    have sound := (sound_begin identity config start).run run
    exact ⟨fun event spent => sound.crashes alive spent reaches,
      fun lease read clock waits due left => sound.takes alive read waits due left reaches⟩

/-- The standard durations. -/
def standard : Config where
  enabled := true
  resourceName := "controller"
  resourceNamespace := "default"

/-- A lease that nobody holds, with a counter of holder changes that has reached its end. -/
def vacant : Lease := ⟨{}, some ⟨none, none, none, some Json.int32Max, none⟩⟩

theorem isRead_vacant : vacant.IsRead := by
  refine ⟨⟨.obj [], rfl⟩, ?_⟩
  rintro spec is_spec
  exact ⟨spec.toJson, (Api.LeaseSpec.read?_iff spec.fields_toJson).2 (by cases is_spec; decide)⟩

/-- The first call that reads such a lease ends the process. -/
theorem vacant_crashes :
    standard.validate = .ok () ∧ ¬Endures (fun _ _ => false) standard := by
  refine ⟨rfl, fun endures => ?_⟩
  have runs : (runFrom (barring step fun _ _ => false) (begin ⟨"first", standard, none⟩ 0)
      [.call (Timestamp.ofUnix 0), .answer ⟨.read (.ok (some vacant)), isRead_vacant⟩]).map
        (fun c => (c.crash, c.now)) = some (some .counterOverflow, 0) := by
    decide +kernel
  obtain ⟨c, run, shows⟩ := Option.map_eq_some_iff.1 runs
  obtain ⟨crashed, now_eq⟩ : c.crash = some .counterOverflow ∧ c.now = 0 := by simpa using shows
  have reaches : Instant.reaches c.now standard.leaseDuration := by
    rw [now_eq]
    decide
  exact nomatch crashed.symm.trans (endures "first" 0 _ c run reaches).1

end Candidate

end GatedManager.Election
