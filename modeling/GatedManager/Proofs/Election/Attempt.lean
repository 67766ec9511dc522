import GatedManager.Election.Elector
import GatedManager.Proofs.Time.Timer

/-!
# What a step of an attempt does

`Advances` lists the ways in which an attempt goes on when an answer comes, with everything that
decides between them. Facts about electors are proved from this list and do not open the functions
behind it.
-/

namespace GatedManager.Election

open Api (ApiError Lease)

/-- Whether an attempt waits for the answer to a write. -/
def Attempt.isWrite : Attempt → Bool
  | .reading _ => false
  | .creating _ _ => true
  | .replacing _ _ => true

/-- Whether an answer is one to the request of an attempt. -/
def Attempt.awaits (attempt : Attempt) : Answer → Bool
  | .read _ => !attempt.isWrite
  | .written _ => attempt.isWrite

/-- The record that an attempt takes note of when an answer comes. -/
def Attempt.noted? : Attempt → Answer → Option Record
  | reading _, .read (.ok (some lease)) => Record.ofLease? lease
  | creating record _, .written (.ok ()) => some record
  | replacing record _, .written (.ok ()) => some record
  | _, _ => none

namespace Elector

theorem remember_record (e : Elector) (record : Record) (now : Instant) :
    (e.remember record now).record = record := by
  unfold remember
  split
  · split
    next same => exact same
    next => rfl
  · rfl

/-- Taking note of a record succeeds as long as the clock reaches the end of the lease. -/
theorem observe_eq_ok_iff {e e' : Elector} {record : Record} {now : Instant} {expired : Bool} :
    e.observe record now = .ok (expired, e') ↔
      Instant.reaches (e.remember record now).since e.config.leaseDuration ∧
        expired = decide ((e.remember record now).since + e.config.leaseDuration.nanos ≤ now) ∧
          e' = { e with observed := some (e.remember record now) } := by
  unfold observe
  simp only
  split
  case h_1 h =>
    have hr : ¬Instant.reaches (e.remember record now).since e.config.leaseDuration := by
      intro hr
      rw [Instant.add?_eq_some_iff.2 ⟨hr, rfl⟩] at h
      exact absurd h (by simp)
    simp [hr]
  case h_2 expiry h =>
    obtain ⟨hr, rfl⟩ := Instant.add?_eq_some_iff.1 h
    simp [hr, eq_comm]

theorem observe_eq_error_iff {e : Elector} {record : Record} {now : Instant} {crash : Crash} :
    e.observe record now = .error crash ↔ crash = .instantOverflow ∧
      ¬Instant.reaches (e.remember record now).since e.config.leaseDuration := by
  unfold observe
  simp only
  split
  case h_1 none_left =>
    have beyond : ¬Instant.reaches (e.remember record now).since e.config.leaseDuration :=
      fun reaches => nomatch none_left.symm.trans (Instant.add?_eq_some_iff.2 ⟨reaches, rfl⟩)
    simp [beyond, eq_comm]
  case h_2 expiry is_expiry => simp [(Instant.add?_eq_some_iff.1 is_expiry).1]

/-- The ways in which an attempt goes on. -/
inductive Advances (e : Elector) (now : Instant) :
    Attempt → Answer → Elector → Progress → Prop
  /-- The lease could not be read. -/
  | unread (clock : Timestamp) (error : ApiError) :
      Advances e now (.reading clock) (.read (.error error)) e (.finished (.error (.api error)))
  /-- There is no lease, and it will be created. -/
  | create (clock : Timestamp) (lease : Lease)
      (written : e.newLease? (Record.first e.identity clock e.config.leaseDuration) = some lease) :
      Advances e now (.reading clock) (.read (.ok none)) e
        (.waiting (.creating (Record.first e.identity clock e.config.leaseDuration) lease))
  /-- There is no lease, and the record for it cannot be written. -/
  | uncreated (clock : Timestamp) :
      Advances e now (.reading clock) (.read (.ok none)) e (.finished (.error .badRecord))
  /-- The lease has no readable record. -/
  | unclear (clock : Timestamp) (lease : Lease) :
      Advances e now (.reading clock) (.read (.ok (some lease))) e (.finished (.error .badRecord))
  /-- Another holder's lease is left alone. -/
  | respect (clock : Timestamp) (lease : Lease) {current : Record} {expired : Bool} {e' : Elector}
      (readable : Record.ofLease? lease = some current)
      (observed : e.observe current now = .ok (expired, e'))
      (due : current.next? e.identity clock e.config.leaseDuration expired = .ok none) :
      Advances e now (.reading clock) (.read (.ok (some lease))) e' (.finished (.ok false))
  /-- The lease will be replaced. -/
  | replace (clock : Timestamp) (lease : Lease) {current next : Record} {expired : Bool}
      {e' : Elector} {lease' : Lease}
      (readable : Record.ofLease? lease = some current)
      (observed : e.observe current now = .ok (expired, e'))
      (due : current.next? e.identity clock e.config.leaseDuration expired = .ok (some next))
      (written : renewedLease? lease next = some lease') :
      Advances e now (.reading clock) (.read (.ok (some lease))) e'
        (.waiting (.replacing next lease'))
  /-- The record for the lease cannot be written. -/
  | unreplaced (clock : Timestamp) (lease : Lease) {current : Record} {expired : Bool}
      {e' : Elector} (readable : Record.ofLease? lease = some current)
      (observed : e.observe current now = .ok (expired, e')) :
      Advances e now (.reading clock) (.read (.ok (some lease))) e' (.finished (.error .badRecord))
  /-- A write was refused, or its answer is an error. -/
  | unwritten {attempt : Attempt} (write : attempt.isWrite) (error : ApiError) :
      Advances e now attempt (.written (.error error)) e (.finished (.error (.api error)))
  /-- A write was stored. -/
  | written {attempt : Attempt} {record : Record} {lease : Lease} {expired : Bool} {e' : Elector}
      (write : attempt = .creating record lease ∨ attempt = .replacing record lease)
      (observed : e.observe record now = .ok (expired, e')) :
      Advances e now attempt (.written (.ok ())) e' (.finished (.ok true))
  /-- The answer belongs to another request. -/
  | stray {attempt : Attempt} {answer : Answer} (other : attempt.awaits answer = false) :
      Advances e now attempt answer e (.waiting attempt)

theorem advances_onAbsent {e : Elector} {now : Instant} (clock : Timestamp) :
    Advances e now (.reading clock) (.read (.ok none)) e (e.onAbsent clock) := by
  unfold onAbsent
  simp only
  split
  case h_1 => exact .uncreated clock
  case h_2 lease hl => exact .create clock lease hl

theorem advances_onWritten {e e' : Elector} {now : Instant} {attempt : Attempt} {record : Record}
    {lease : Lease} {result : Except ApiError Unit} {p : Progress}
    (write : attempt = .creating record lease ∨ attempt = .replacing record lease)
    (h : e.onWritten record result now = .ok (e', p)) :
    Advances e now attempt (.written result) e' p := by
  cases result with
  | error error =>
      obtain ⟨rfl, rfl⟩ : e = e' ∧ Progress.finished (.error (.api error)) = p := by
        simpa [onWritten] using h
      exact .unwritten (by rcases write with rfl | rfl <;> rfl) error
  | ok u =>
      cases ho : e.observe record now with
      | error crash => simp [onWritten, ho] at h
      | ok found =>
          obtain ⟨expired, seen⟩ := found
          obtain ⟨rfl, rfl⟩ : seen = e' ∧ Progress.finished (.ok true) = p := by
            simpa [onWritten, ho] using h
          exact .written write ho

theorem advances_onLease {e e' : Elector} {now : Instant} {clock : Timestamp} {lease : Lease}
    {p : Progress} (h : e.onLease clock lease now = .ok (e', p)) :
    Advances e now (.reading clock) (.read (.ok (some lease))) e' p := by
  unfold onLease at h
  split at h
  case h_1 =>
    obtain ⟨rfl, rfl⟩ : e = e' ∧ Progress.finished (.error .badRecord) = p := by simpa using h
    exact .unclear clock lease
  case h_2 current hc =>
    split at h
    case h_1 => simp at h
    case h_2 expired seen ho =>
      obtain ⟨-, -, rfl⟩ := observe_eq_ok_iff.1 ho
      simp only at h
      split at h
      case h_1 => simp at h
      case h_2 hn =>
        obtain ⟨rfl, rfl⟩ : _ = e' ∧ Progress.finished (.ok false) = p := by simpa using h
        exact .respect clock lease hc ho hn
      case h_3 next hn =>
        split at h
        case h_1 =>
          obtain ⟨rfl, rfl⟩ : _ = e' ∧ Progress.finished (.error .badRecord) = p := by
            simpa using h
          exact .unreplaced clock lease hc ho
        case h_2 lease' hw =>
          obtain ⟨rfl, rfl⟩ : _ = e' ∧ Progress.waiting (.replacing next lease') = p := by
            simpa using h
          exact .replace clock lease hc ho hn hw

/-- A step of an attempt is one of the list. -/
theorem advances_of_advance {e e' : Elector} {now : Instant} {attempt : Attempt} {answer : Answer}
    {p : Progress} (h : e.advance attempt answer now = .ok (e', p)) :
    Advances e now attempt answer e' p := by
  cases attempt with
  | reading clock =>
      cases answer with
      | read result =>
          match result with
          | .error error =>
              obtain ⟨rfl, rfl⟩ : e = e' ∧ Progress.finished (.error (.api error)) = p := by
                simpa [advance] using h
              exact .unread clock error
          | .ok none =>
              obtain ⟨rfl, rfl⟩ : e = e' ∧ e.onAbsent clock = p := by simpa [advance] using h
              exact advances_onAbsent clock
          | .ok (some lease) => exact advances_onLease h
      | written result =>
          obtain ⟨rfl, rfl⟩ : e = e' ∧ Progress.waiting (.reading clock) = p := by
            simpa [advance] using h
          exact .stray rfl
  | creating record lease =>
      cases answer with
      | read result =>
          obtain ⟨rfl, rfl⟩ : e = e' ∧ Progress.waiting (.creating record lease) = p := by
            simpa [advance] using h
          exact .stray rfl
      | written result => exact advances_onWritten (.inl rfl) h
  | replacing record lease =>
      cases answer with
      | read result =>
          obtain ⟨rfl, rfl⟩ : e = e' ∧ Progress.waiting (.replacing record lease) = p := by
            simpa [advance] using h
          exact .stray rfl
      | written result => exact advances_onWritten (.inr rfl) h

/-- An attempt changes nothing of an elector but its memory. -/
theorem Advances.frame {e e' : Elector} {now : Instant} {attempt : Attempt} {answer : Answer}
    {p : Progress} (h : Advances e now attempt answer e' p) :
    e'.identity = e.identity ∧ e'.config = e.config := by
  cases h with
  | respect _ _ _ ho _ => obtain ⟨-, -, rfl⟩ := observe_eq_ok_iff.1 ho; exact ⟨rfl, rfl⟩
  | replace _ _ _ ho _ _ => obtain ⟨-, -, rfl⟩ := observe_eq_ok_iff.1 ho; exact ⟨rfl, rfl⟩
  | unreplaced _ _ _ ho => obtain ⟨-, -, rfl⟩ := observe_eq_ok_iff.1 ho; exact ⟨rfl, rfl⟩
  | written _ ho => obtain ⟨-, -, rfl⟩ := observe_eq_ok_iff.1 ho; exact ⟨rfl, rfl⟩
  | _ => exact ⟨rfl, rfl⟩

/-- An attempt that goes on after the answer to its request has read, and it sends a write. -/
theorem Advances.reads_of_waiting {e e' : Elector} {now : Instant} {attempt next : Attempt}
    {answer : Answer} (h : Advances e now attempt answer e' (.waiting next))
    (awaited : attempt.awaits answer = true) :
    ∃ clock, attempt = .reading clock ∧ next.isWrite = true := by
  cases h with
  | create clock lease written => exact ⟨clock, rfl, rfl⟩
  | replace clock lease readable observed due written => exact ⟨clock, rfl, rfl⟩
  | stray other => exact nomatch awaited.symm.trans other

/-- Only a write that was stored wins the lease. -/
theorem Advances.held {e e' : Elector} {now : Instant} {attempt : Attempt} {answer : Answer}
    (h : Advances e now attempt answer e' (.finished (.ok true))) :
    attempt.isWrite ∧ answer = .written (.ok ()) := by
  cases h with
  | written write _ => exact ⟨by rcases write with rfl | rfl <;> rfl, rfl⟩

/-! ### When an attempt has no result -/

/-- Whether everything that is remembered has been seen by now. -/
def RemembersPast (e : Elector) (now : Instant) : Prop :=
  ∀ seen, e.observed = some seen → seen.since ≤ now

variable {e e' : Elector} {now later : Instant}

theorem RemembersPast.pass (h : e.RemembersPast now) (passes : now ≤ later) :
    e.RemembersPast later :=
  fun seen is => Nat.le_trans (h seen is) passes

theorem RemembersPast.remember (h : e.RemembersPast now) (record : Record) :
    (e.remember record now).since ≤ now := by
  unfold Elector.remember
  split
  case h_1 seen is_seen =>
    split
    · exact h seen is_seen
    · exact Nat.le_refl now
  case h_2 => exact Nat.le_refl now

theorem RemembersPast.observe {record : Record} {expired : Bool} (h : e.RemembersPast now)
    (observed : e.observe record now = .ok (expired, e')) : e'.RemembersPast now := by
  obtain ⟨-, -, rfl⟩ := observe_eq_ok_iff.1 observed
  rintro _ ⟨⟩
  exact h.remember record

theorem Advances.remembersPast {attempt : Attempt} {answer : Answer} {p : Progress}
    (h : Advances e now attempt answer e' p) (past : e.RemembersPast now) :
    e'.RemembersPast now := by
  cases h with
  | respect _ _ _ observed _ => exact past.observe observed
  | replace _ _ _ observed _ _ => exact past.observe observed
  | unreplaced _ _ _ observed => exact past.observe observed
  | written _ observed => exact past.observe observed
  | _ => exact past

theorem RemembersPast.reaches (h : e.RemembersPast now)
    (reaches : Instant.reaches now e.config.leaseDuration) (record : Record) :
    Instant.reaches (e.remember record now).since e.config.leaseDuration :=
  Instant.onClock_mono (Nat.add_le_add_right (h.remember record) _) reaches

/-- Taking note of a record succeeds when the clock reaches a lease duration beyond now. -/
theorem RemembersPast.exists_observe (h : e.RemembersPast now)
    (reaches : Instant.reaches now e.config.leaseDuration) (record : Record) :
    e.observe record now =
      .ok (decide ((e.remember record now).since + e.config.leaseDuration.nanos ≤ now),
        { e with observed := some (e.remember record now) }) :=
  observe_eq_ok_iff.2 ⟨h.reaches reaches record, rfl, rfl⟩

theorem onWritten_eq_error_iff {record : Record} {result : Except ApiError Unit} {crash : Crash} :
    e.onWritten record result now = .error crash ↔
      result = .ok () ∧ e.observe record now = .error crash := by
  cases result with
  | error error => simp [onWritten]
  | ok _ =>
      unfold onWritten
      cases observed : e.observe record now <;> simp

theorem onLease_eq_instantOverflow_iff {clock : Timestamp} {lease : Lease} :
    e.onLease clock lease now = .error .instantOverflow ↔
      ∃ record, Record.ofLease? lease = some record ∧
        e.observe record now = .error .instantOverflow := by
  unfold onLease
  cases Record.ofLease? lease with
  | none => simp
  | some record =>
      cases observed : e.observe record now with
      | error crash => simp [observed]
      | ok found =>
          obtain ⟨expired, e'⟩ := found
          simp only [Option.some.injEq, exists_eq_left', observed]
          split
          · simp
          · simp
          · split <;> simp

/-- A step of an attempt has no result in the arithmetic of times exactly if it takes note of a
record and the lease, counted from when that was seen first, ends beyond the clock. -/
theorem advance_eq_instantOverflow_iff {attempt : Attempt} {answer : Answer} :
    e.advance attempt answer now = .error .instantOverflow ↔
      ∃ record, attempt.noted? answer = some record ∧
        ¬Instant.reaches (e.remember record now).since e.config.leaseDuration := by
  cases attempt with
  | reading clock =>
      match answer with
      | .read (.error error) => simp [advance, Attempt.noted?]
      | .read (.ok none) => simp [advance, Attempt.noted?]
      | .written result => simp [advance, Attempt.noted?]
      | .read (.ok (some lease)) =>
          simp [advance, Attempt.noted?, onLease_eq_instantOverflow_iff, observe_eq_error_iff]
  | creating record lease =>
      match answer with
      | .read result => simp [advance, Attempt.noted?]
      | .written (.error error) => simp [advance, Attempt.noted?, onWritten_eq_error_iff]
      | .written (.ok ()) =>
          simp [advance, Attempt.noted?, onWritten_eq_error_iff, observe_eq_error_iff]
  | replacing record lease =>
      match answer with
      | .read result => simp [advance, Attempt.noted?]
      | .written (.error error) => simp [advance, Attempt.noted?, onWritten_eq_error_iff]
      | .written (.ok ()) =>
          simp [advance, Attempt.noted?, onWritten_eq_error_iff, observe_eq_error_iff]

/-- As long as the clock reaches a lease duration beyond now, the only arithmetic without a result
is a counter of holder changes that has reached its end. -/
theorem eq_counterOverflow_of_advance {attempt : Attempt} {answer : Answer} {crash : Crash}
    (past : e.RemembersPast now) (reaches : Instant.reaches now e.config.leaseDuration)
    (h : e.advance attempt answer now = .error crash) : crash = .counterOverflow := by
  cases crash with
  | counterOverflow => rfl
  | instantOverflow =>
      obtain ⟨record, -, beyond⟩ := advance_eq_instantOverflow_iff.1 h
      exact absurd (past.reaches reaches record) beyond

/-- The counter is at its end only in a lease that was read. -/
theorem reads_of_counterOverflow {attempt : Attempt} {answer : Answer}
    (h : e.advance attempt answer now = .error .counterOverflow) :
    ∃ clock lease, attempt = .reading clock ∧ answer = .read (.ok (some lease)) := by
  have onWritten : ∀ record result, e.onWritten record result now ≠ .error .counterOverflow := by
    intro record result failed
    obtain ⟨-, failed⟩ := onWritten_eq_error_iff.1 failed
    cases (observe_eq_error_iff.1 failed).1
  cases attempt with
  | reading clock =>
      match answer, h with
      | .read (.ok (some lease)), _ => exact ⟨clock, lease, rfl, rfl⟩
      | .read (.error error), h => cases h
      | .read (.ok none), h => cases h
      | .written result, h => cases h
  | creating record lease =>
      cases answer with
      | read result => cases h
      | written result => exact absurd h (onWritten record result)
  | replacing record lease =>
      cases answer with
      | read result => cases h
      | written result => exact absurd h (onWritten record result)

end Elector

end GatedManager.Election
