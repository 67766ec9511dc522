import GatedManager.Time.Clock

/-!
# When timers fire

A timer fires at the first whole millisecond at or after its end. Two timers that follow one
another lose less than a millisecond to this together with the rounding of the second length: the
second timer starts at a whole millisecond.
-/

namespace GatedManager.Instant

theorem le_roundUpMillis (n : Nat) : n ≤ roundUpMillis n := by
  simp only [roundUpMillis, nanosPerMilli]
  omega

theorem roundUpMillis_le (n : Nat) : roundUpMillis n ≤ n + (nanosPerMilli - 1) := by
  simp only [roundUpMillis, nanosPerMilli]
  omega

theorem roundUpMillis_dvd (n : Nat) : nanosPerMilli ∣ roundUpMillis n := by
  exact Nat.dvd_mul_left _ _

/-- A whole number of milliseconds is not rounded. -/
theorem roundUpMillis_add {n : Nat} (h : nanosPerMilli ∣ n) (m : Nat) :
    roundUpMillis (n + m) = n + roundUpMillis m := by
  obtain ⟨k, rfl⟩ := h
  simp only [roundUpMillis, nanosPerMilli]
  omega

theorem roundUpMillis_of_dvd {n : Nat} (h : nanosPerMilli ∣ n) : roundUpMillis n = n :=
  roundUpMillis_add h 0

/-- An end one nanosecond after a whole millisecond loses as much as there is to lose. -/
theorem roundUpMillis_of_mod_eq_one {n : Nat} (h : n % nanosPerMilli = 1) :
    roundUpMillis n = n + (nanosPerMilli - 1) := by
  simp only [roundUpMillis, nanosPerMilli] at h ⊢
  omega

/-- Whether the clock can show this instant. -/
def onClock (now : Instant) : Prop := now / Duration.nanosPerSecond < secondsLimit

instance (now : Instant) : Decidable (onClock now) := inferInstanceAs (Decidable (_ < _))

theorem onClock_mono {now later : Nat} (h : now ≤ later) (shown : onClock later) :
    onClock now :=
  Nat.lt_of_le_of_lt (Nat.div_le_div_right h) shown

/-- Whether the clock reaches as far as a duration after `now`. -/
def reaches (now : Instant) (d : Duration) : Prop := onClock (now + d.nanos)

instance (now : Instant) (d : Duration) : Decidable (reaches now d) :=
  inferInstanceAs (Decidable (onClock _))

theorem not_reaches_of_le_seconds {d : Duration} (long : secondsLimit ≤ d.seconds)
    (now : Instant) : ¬reaches now d :=
  Nat.not_lt.2 (Nat.le_trans long (Nat.div_le_div_right (Nat.le_add_left _ _)))

/-- The last instant from which the clock reaches one duration is too late for a longer one. -/
theorem exists_beyond {d e : Duration} (shown : reaches 0 d) (longer : d.nanos < e.nanos) :
    ∃ now : Instant, reaches now d ∧ ¬reaches now e := by
  have on_clock : ∀ n : Nat, onClock n ↔ n < secondsLimit * Duration.nanosPerSecond := by
    intro n
    exact Nat.div_lt_iff_lt_mul (by decide)
  have within : 0 + d.nanos < secondsLimit * Duration.nanosPerSecond := (on_clock _).1 shown
  refine ⟨secondsLimit * Duration.nanosPerSecond - 1 - d.nanos, (on_clock _).2 ?_, fun beyond => ?_⟩
  · omega
  · have := (on_clock _).1 beyond
    omega

theorem add?_eq_some_iff {now t : Instant} {d : Duration} :
    add? now d = some t ↔ reaches now d ∧ t = now + d.nanos := by
  unfold add? reaches onClock
  split
  case isTrue h => simp only [h, true_and, Option.some.injEq, eq_comm]
  case isFalse h => simp only [h, false_and, reduceCtorEq]

theorem timer_eq {now : Instant} {d : Duration} (h : reaches now d) :
    timer now d = roundUpMillis (now + d.nanos) := by
  rw [timer, add?_eq_some_iff.2 ⟨h, rfl⟩]
  rfl

/-- A timer of whole milliseconds that was set at a whole millisecond fires at its end. -/
theorem timer_of_dvd {now : Instant} {d : Duration} (whole : nanosPerMilli ∣ now)
    (whole_length : nanosPerMilli ∣ d.nanos) (h : reaches now d) : timer now d = now + d.nanos := by
  rw [timer_eq h, roundUpMillis_of_dvd (Nat.dvd_add whole whole_length)]

/-- A timer never fires early. -/
theorem le_timer (now : Instant) (d : Duration) : now ≤ timer now d := by
  refine Nat.le_trans ?_ (le_roundUpMillis _)
  cases h : add? now d with
  | none => exact Nat.le_add_right _ _
  | some t =>
      obtain ⟨-, rfl⟩ := add?_eq_some_iff.1 h
      exact Nat.le_add_right _ _

theorem timer_dvd (now : Instant) (d : Duration) : nanosPerMilli ∣ timer now d :=
  roundUpMillis_dvd _

/-- As far as the clock goes, a timer fires within a millisecond after its end. -/
theorem le_of_le_timer {now t : Instant} {d : Duration} (h : t ≤ timer now d) (shown : onClock t) :
    t ≤ roundUpMillis (now + d.nanos) := by
  by_cases hr : reaches now d
  · rwa [timer_eq hr] at h
  · refine Nat.le_trans ?_ (le_roundUpMillis _)
    refine Nat.le_of_not_lt fun beyond => hr ?_
    exact onClock_mono (Nat.le_of_lt beyond) shown

/-- Before a timer fires, less than its rounded length has passed since a whole millisecond at which
it was set. -/
theorem lt_of_lt_timer {now t : Instant} {d : Duration} (whole : nanosPerMilli ∣ now)
    (h : t < timer now d) (shown : onClock t) : t < now + roundUpMillis d.nanos := by
  rw [← roundUpMillis_add whole]
  by_cases hr : reaches now d
  · rwa [timer_eq hr] at h
  · refine Nat.lt_of_lt_of_le ?_ (le_roundUpMillis _)
    refine Nat.lt_of_not_le fun beyond => hr ?_
    exact onClock_mono beyond shown

/-- The second of two timers that follow one another. -/
theorem le_of_le_timer_timer {now t : Instant} {d e : Duration} (h : t ≤ timer (timer now d) e)
    (shown : onClock t) : t ≤ now + (d.nanos + (nanosPerMilli - 1) + roundUpMillis e.nanos) := by
  by_cases hr : reaches now d
  · rw [timer_eq hr] at h
    have hle := le_of_le_timer h shown
    rw [roundUpMillis_add (roundUpMillis_dvd _)] at hle
    have first := roundUpMillis_le (now + d.nanos)
    refine Nat.le_trans hle ?_
    omega
  · refine Nat.le_of_not_lt fun beyond => hr ?_
    exact onClock_mono (by omega) shown

/-- Nothing is gained by the rounding when the first timer is set so that it loses most. -/
theorem timer_timer_eq {now : Instant} {d e : Duration}
    (rounding : (now + d.nanos) % nanosPerMilli = 1)
    (fits : onClock (now + (d.nanos + (nanosPerMilli - 1) + e.nanos))) :
    timer now d = now + d.nanos + (nanosPerMilli - 1) ∧
      timer (timer now d) e =
        now + (d.nanos + (nanosPerMilli - 1) + roundUpMillis e.nanos) := by
  have first : timer now d = now + d.nanos + (nanosPerMilli - 1) := by
    rw [timer_eq (onClock_mono (by omega) fits),
      roundUpMillis_of_mod_eq_one rounding]
  refine ⟨first, ?_⟩
  have second : reaches (timer now d) e := by
    rw [first]
    exact onClock_mono (by omega) fits
  have whole : nanosPerMilli ∣ timer now d := roundUpMillis_dvd _
  rw [timer_eq second, roundUpMillis_add whole, first]
  simp only [Nat.add_assoc]

end GatedManager.Instant
