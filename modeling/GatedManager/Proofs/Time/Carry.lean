import GatedManager.Proofs.Time.Written

/-!
# Times whose text tells another time

The nanoseconds of a timestamp can run beyond any second. Only the last second of a minute has a
text for that, which shows second 60. The text of every other one shows the second that follows, and
it is read back as that: what runs beyond the second is carried over.
-/

namespace GatedManager.Timestamp

variable {t : Timestamp}

/-- What every timestamp of the program satisfies, the clock's or not: the year can be told, and the
nanoseconds run beyond a second by less than another one. -/
structure IsRepresentable (t : Timestamp) : Prop where
  year : yearInRange (CivilDate.ofDays (t.seconds / secondsPerDay)).year = true
  nanos : t.nanos < 2 * Duration.nanosPerSecond

theorem IsValid.isRepresentable (h : t.IsValid) : t.IsRepresentable := ⟨h.year, h.nanos⟩

/-- The timestamp with what runs beyond a second counted to the next one, unless the minute has no
next one. -/
def carry (t : Timestamp) : Timestamp :=
  if Duration.nanosPerSecond ≤ t.nanos ∧ t.seconds % 60 ≠ 59 then
    ⟨t.seconds + 1, t.nanos - Duration.nanosPerSecond⟩
  else t

theorem carry_of_isValid (h : t.IsValid) : t.carry = t :=
  if_neg fun beyond => beyond.2 (h.leap beyond.1)

/-- The next second of a minute is one of the same day. -/
theorem day_of_room {seconds : Int} (room : seconds % 60 ≠ 59) :
    (seconds + 1) / secondsPerDay = seconds / secondsPerDay := by
  simp only [secondsPerDay]
  omega

theorem IsRepresentable.isValid_carry (h : t.IsRepresentable) : t.carry.IsValid := by
  obtain ⟨year, nanos⟩ := h
  unfold carry
  split
  case isTrue beyond =>
    have day := day_of_room beyond.2
    have small : t.nanos - Duration.nanosPerSecond < Duration.nanosPerSecond := by omega
    refine ⟨day ▸ year, small.trans_le ?_, fun large => absurd small (Nat.not_lt.2 large)⟩
    exact Nat.le_mul_of_pos_left _ (by decide)
  case isFalse within =>
    exact ⟨year, nanos, fun beyond => by_contra fun other => within ⟨beyond, other⟩⟩

/-- A text does not tell whether its second was reached by a carry. -/
theorem IsRepresentable.render_carry (h : t.IsRepresentable) (precision : Precision) :
    t.carry.render precision = t.render precision := by
  have nanos := h.nanos
  unfold carry
  split
  case isFalse => rfl
  case isTrue beyond =>
    have day := day_of_room beyond.2
    have second : ((t.seconds + 1) % secondsPerDay).toNat =
        (t.seconds % secondsPerDay).toNat + 1 := by
      simp only [secondsPerDay]
      omega
    have room : (t.seconds % secondsPerDay).toNat % 60 ≠ 59 := by
      simp only [secondsPerDay]
      omega
    have leap : t.nanos / Duration.nanosPerSecond = 1 := by
      simp only [Duration.nanosPerSecond] at *
      omega
    have leap' : (t.nanos - Duration.nanosPerSecond) / Duration.nanosPerSecond = 0 := by
      simp only [Duration.nanosPerSecond] at *
      omega
    have rest : (t.nanos - Duration.nanosPerSecond) % Duration.nanosPerSecond =
        t.nanos % Duration.nanosPerSecond := (Nat.mod_eq_sub_mod beyond.1).symm
    simp only [render, renderChars, day, second, leap, leap', rest]
    generalize (t.seconds % secondsPerDay).toNat = n at room
    have hour : (n + 1) / 3600 = n / 3600 := by omega
    have minute : (n + 1) / 60 % 60 = n / 60 % 60 := by omega
    have shown : (n + 1) % 60 + 0 = n % 60 + 1 := by omega
    rw [hour, minute, shown]

end GatedManager.Timestamp
