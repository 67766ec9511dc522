import GatedManager.Proofs.Text.Blank
import GatedManager.Proofs.Text.Digits
import GatedManager.Proofs.Time.Calendar
import GatedManager.Time.Reader

/-!
# Written timestamps

The reader takes more texts than the writer produces. A written timestamp is read back as itself,
up to the precision of the text. The fields are read one by one, each being followed by a character
that is no digit.
-/

namespace GatedManager.Timestamp

open Duration (padded)
open Text (isBlank_of_isDigit trimLeft trimLeft_cons)

variable {rest : List Char}

/-- A reader of numbers stops at the first character that is no digit. -/
theorem digits?_padded {limit : Nat} (width n : Nat) (fits : (padded width n).length ≤ limit)
    (stop : ∀ c ∈ rest.head?, c.isDigit = false) :
    digits? limit (padded width n ++ rest) = some (n, rest) := by
  have stop' : ∀ c ∈ (rest.take (limit - (padded width n).length)).head?, c.isDigit = false := by
    intro c hc
    apply stop c
    rw [List.head?_take] at hc
    split at hc
    · cases hc
    · exact hc
  have token : ((padded width n ++ rest).take limit).takeWhile Char.isDigit = padded width n := by
    rw [List.take_append, List.take_of_length_le fits]
    exact Duration.takeWhile_padded stop'
  simp only [digits?, token, Duration.natural?_padded, Option.map_some, List.drop_left]

theorem trimLeft_padded {width n : Nat} :
    trimLeft (padded width n ++ rest) = padded width n ++ rest := by
  cases digits : padded width n with
  | nil => exact absurd digits Duration.padded_ne_nil
  | cons c tail =>
      exact trimLeft_cons (isBlank_of_isDigit (Duration.isDigit_of_mem_padded
        (digits ▸ List.mem_cons_self)))

theorem field?_twoDigits {n : Nat} (small : n < 100) (rest : List Char)
    (stop : ∀ c ∈ rest.head?, c.isDigit = false) :
    field? 2 (twoDigits n ++ rest) = some (n, rest) := by
  rw [field?, twoDigits, trimLeft_padded]
  exact digits?_padded 2 n (Duration.length_padded (by decide) small).le stop

theorem year?_of_isDigit {c : Char} (h : c.isDigit) :
    year? (c :: rest) = (digits? 4 (c :: rest)).map fun (n, rest) => ((n : Int), rest) := by
  rw [year?, trimLeft_cons (isBlank_of_isDigit h)]
  split
  · next heads => simp_all
  · next heads => simp_all
  · rfl

/-- Any year is read back: one outside four digits is told by its sign. -/
theorem year?_renderYear (year : Int) (rest : List Char)
    (stop : ∀ c ∈ rest.head?, c.isDigit = false) :
    year? (renderYear year ++ rest) = some (year, rest) := by
  by_cases plain : 0 ≤ year ∧ year ≤ 9999
  · have small : year.toNat < 10 ^ 4 := by omega
    have digits := digits?_padded 4 _ (Duration.length_padded (by decide) small).le stop
    rw [renderYear, if_pos plain]
    cases text : padded 4 year.toNat with
    | nil => exact absurd text Duration.padded_ne_nil
    | cons c tail =>
        have digit : c.isDigit := Duration.isDigit_of_mem_padded (text ▸ List.mem_cons_self)
        rw [text] at digits
        rw [List.cons_append, year?_of_isDigit digit, ← List.cons_append, digits]
        simp only [Option.map_some, Int.toNat_of_nonneg plain.1]
  · have within : (padded 4 year.natAbs).length ≤ (padded 4 year.natAbs ++ rest).length := by simp
    have digits := digits?_padded 4 year.natAbs within stop
    by_cases negative : year < 0
    · have signed : -(year.natAbs : Int) = year := by omega
      simp only [renderYear, if_neg plain, if_pos negative, year?, List.cons_append,
        trimLeft_cons (c := '-') (by decide), digits, Option.map_some, signed]
    · have unsigned : (year.natAbs : Int) = year := by omega
      simp only [renderYear, if_neg plain, if_neg negative, year?, List.cons_append,
        trimLeft_cons (c := '+') (by decide), digits, Option.map_some, unsigned]

theorem separator?_cons {c : Char} (h : Text.isBlank c = false) :
    separator? c (c :: rest) = some rest := by
  rw [separator?, trimLeft_cons h]
  exact if_pos rfl

/-- The written date of a day. -/
theorem date?_render {days : Int} (inRange : yearInRange (CivilDate.ofDays days).year = true)
    (rest : List Char) (stop : ∀ c ∈ rest.head?, c.isDigit = false) :
    date? (renderYear (CivilDate.ofDays days).year ++
        '-' :: (twoDigits (CivilDate.ofDays days).month ++
          '-' :: (twoDigits (CivilDate.ofDays days).day ++ rest))) =
      some (CivilDate.ofDays days, rest) := by
  have valid := CivilDate.isValid_ofDays days
  generalize CivilDate.ofDays days = date at *
  have parts := valid
  simp only [CivilDate.isValid, Bool.and_eq_true, decide_eq_true_eq] at parts
  have short : date.day ≤ 31 := by
    refine parts.2.trans ?_
    simp only [CivilDate.daysInMonth]
    split_ifs <;> decide
  have dash : Text.isBlank '-' = false := by decide
  have month := field?_twoDigits (n := date.month) (by omega)
    ('-' :: (twoDigits date.day ++ rest)) (by simp)
  have day := field?_twoDigits (n := date.day) (by omega) rest stop
  have year := year?_renderYear date.year
    ('-' :: (twoDigits date.month ++ '-' :: (twoDigits date.day ++ rest))) (by simp)
  simp only [date?, year, separator?_cons dash, month, day, Option.bind_eq_bind, Option.bind_some,
    valid, inRange, Bool.and_self, if_true]

/-- The written time of a day, the sixtieth second of a minute standing for a leap second. -/
theorem time?_render {second nanos : Nat} (day : second < 86400) (fraction : List Char)
    (leap : Nat) (leap_le : leap ≤ 1) (leap_last : leap = 1 → second % 60 = 59)
    (read : fraction? (fraction ++ rest) = some (nanos, rest))
    (stop : ∀ c ∈ (fraction ++ rest).head?, c.isDigit = false) :
    time? (twoDigits (second / 3600) ++ ':' :: (twoDigits (second / 60 % 60) ++
        ':' :: (twoDigits (second % 60 + leap) ++ (fraction ++ rest)))) =
      some ((second, leap * Duration.nanosPerSecond + nanos), rest) := by
  have colon : Text.isBlank ':' = false := by decide
  have hours := field?_twoDigits (n := second / 3600) (by omega)
    (':' :: (twoDigits (second / 60 % 60) ++
        ':' :: (twoDigits (second % 60 + leap) ++ (fraction ++ rest)))) (by simp)
  have minutes := field?_twoDigits (n := second / 60 % 60) (by omega)
    (':' :: (twoDigits (second % 60 + leap) ++ (fraction ++ rest))) (by simp)
  have seconds := field?_twoDigits (n := second % 60 + leap) (by omega) (fraction ++ rest) stop
  have bounds : second / 3600 < 24 ∧ second / 60 % 60 < 60 ∧ second % 60 + leap ≤ 60 := by omega
  simp only [time?, hours, separator?_cons colon, minutes, seconds, read, Option.bind_eq_bind,
    Option.bind_some, if_pos bounds]
  split
  · simp only [Option.some.injEq, Prod.mk.injEq, and_true]
    refine ⟨by omega, ?_⟩
    obtain rfl : leap = 1 := by omega
    omega
  · simp only [Option.some.injEq, Prod.mk.injEq, and_true]
    have : leap = 0 := by omega
    subst this
    omega

theorem fractionNanos_padded {width n : Nat} (pos : 0 < width) (le : width ≤ 9)
    (small : n < 10 ^ width) : fractionNanos (padded width n) = some (n * 10 ^ (9 - width)) := by
  have length := Duration.length_padded pos small
  have kept : (padded width n).take 9 = padded width n :=
    List.take_of_length_le (by omega)
  simp only [fractionNanos, kept, Duration.natural?_padded, Option.map_some, length, Nat.pow_eq]

theorem fraction?_padded {width n : Nat} (pos : 0 < width) (le : width ≤ 9)
    (small : n < 10 ^ width) (stop : ∀ c ∈ rest.head?, c.isDigit = false) :
    fraction? ('.' :: (padded width n ++ rest)) = some (n * 10 ^ (9 - width), rest) := by
  simp only [fraction?, Duration.takeWhile_padded stop, Duration.dropWhile_padded stop,
    fractionNanos_padded pos le small, Option.map_some]

/-- The part of a second that a text of some precision keeps. -/
def Precision.keep : Precision → Nat → Nat
  | .seconds, _ => 0
  | .micros, nanos => nanos / 1000 * 1000
  | .exact, nanos => nanos

theorem fraction?_renderFraction (precision : Precision) {nanos : Nat}
    (small : nanos < Duration.nanosPerSecond) (rest : List Char) :
    fraction? (renderFraction precision nanos ++ 'Z' :: rest) =
      some (precision.keep nanos, 'Z' :: rest) := by
  have stop : ∀ c ∈ ('Z' :: rest).head?, c.isDigit = false := by simp
  simp only [Duration.nanosPerSecond] at small
  cases precision with
  | seconds => rfl
  | micros =>
      rw [renderFraction, List.cons_append,
        fraction?_padded (by decide) (by decide) (by omega) stop]
      rfl
  | exact =>
      simp only [renderFraction, Precision.keep]
      split
      · next zero =>
        rw [zero]
        rfl
      split
      · next millis =>
        have kept : nanos / 1000000 * 10 ^ (9 - 3) = nanos := by omega
        rw [List.cons_append, fraction?_padded (by decide) (by decide) (by omega) stop, kept]
      split
      · next micros =>
        have kept : nanos / 1000 * 10 ^ (9 - 6) = nanos := by omega
        rw [List.cons_append, fraction?_padded (by decide) (by decide) (by omega) stop, kept]
      · rw [List.cons_append, fraction?_padded (by decide) (by decide) (by omega) stop,
          Nat.sub_self, Nat.pow_zero, Nat.mul_one]

theorem head?_renderFraction (precision : Precision) (nanos : Nat) :
    ∀ c ∈ (renderFraction precision nanos ++ 'Z' :: rest).head?, c.isDigit = false := by
  cases precision with
  | seconds => simp [renderFraction]
  | micros => simp [renderFraction]
  | exact =>
      simp only [renderFraction]
      split_ifs <;> simp

/-- Whether a timestamp has a text of its own: the year can be told, and the nanoseconds run beyond
a second only in the last second of a minute. The clock shows no other times, and no text tells
another one. -/
structure IsValid (t : Timestamp) : Prop where
  year : yearInRange (CivilDate.ofDays (t.seconds / secondsPerDay)).year = true
  nanos : t.nanos < 2 * Duration.nanosPerSecond
  leap : Duration.nanosPerSecond ≤ t.nanos → t.seconds % 60 = 59

theorem isValid_ofUnix (seconds : UInt32) : IsValid ⟨seconds.toNat, 0⟩ where
  year := by
    have lt := seconds.toNat_lt
    rw [yearInRange, Bool.and_eq_true, decide_eq_true_eq, decide_eq_true_eq]
    simp only [CivilDate.ofDays, CivilDate.daysPerEra, CivilDate.epochOffset, secondsPerDay]
    omega
  nanos := by simp [Duration.nanosPerSecond]
  leap := by simp [Duration.nanosPerSecond]

/-- A time that is given by its seconds in 32 bits. -/
def ofUnix (seconds : UInt32) : { t : Timestamp // t.IsValid } :=
  ⟨⟨seconds.toNat, 0⟩, isValid_ofUnix seconds⟩

/-- A timestamp as a text of some precision tells it. -/
def cut (precision : Precision) (t : Timestamp) : Timestamp :=
  ⟨t.seconds, t.nanos / Duration.nanosPerSecond * Duration.nanosPerSecond +
    precision.keep (t.nanos % Duration.nanosPerSecond)⟩

theorem readChars?_renderChars (precision : Precision) {t : Timestamp} (valid : t.IsValid) :
    readChars? (renderChars precision t) = some (t.cut precision) := by
  obtain ⟨year, nanos, leap⟩ := valid
  simp only [Duration.nanosPerSecond] at nanos leap
  have second_nonneg : 0 ≤ t.seconds % secondsPerDay := Int.emod_nonneg _ (by decide)
  have second_lt : t.seconds % secondsPerDay < 86400 := Int.emod_lt_of_pos _ (by decide)
  have second_small : (t.seconds % secondsPerDay).toNat < 86400 := by omega
  have date := date?_render year ('T' :: (twoDigits ((t.seconds % secondsPerDay).toNat / 3600) ++
    ':' :: (twoDigits ((t.seconds % secondsPerDay).toNat / 60 % 60) ++ ':' ::
    (twoDigits ((t.seconds % secondsPerDay).toNat % 60 + t.nanos / Duration.nanosPerSecond) ++
    (renderFraction precision (t.nanos % Duration.nanosPerSecond) ++ ['Z']))))) (by simp)
  have time := time?_render second_small
    (renderFraction precision (t.nanos % Duration.nanosPerSecond))
    (t.nanos / Duration.nanosPerSecond) (by simp only [Duration.nanosPerSecond]; omega)
    (by simp only [Duration.nanosPerSecond, secondsPerDay]; omega)
    (fraction?_renderFraction precision (Nat.mod_lt _ (by decide)) [])
    (head?_renderFraction _ _)
  have zulu : Text.isBlank 'Z' = false := by decide
  have zone : offset? ['Z'] = some (0, []) := rfl
  have whole : (CivilDate.ofDays (t.seconds / secondsPerDay)).toDays * secondsPerDay +
      ((t.seconds % secondsPerDay).toNat : Int) - 0 = t.seconds := by
    rw [CivilDate.toDays_ofDays, Int.toNat_of_nonneg second_nonneg, Int.sub_zero, Int.mul_comm,
      Int.mul_ediv_add_emod]
  simp only [renderChars, List.append_assoc, List.cons_append]
  simp only [readChars?, date, time, Option.bind_eq_bind, Option.bind_some, true_or, if_true,
    trimLeft_cons zulu, zone, whole, year]
  rfl

theorem read?_render (precision : Precision) {t : Timestamp} (valid : t.IsValid) :
    read? (render precision t) = some (t.cut precision) := by
  rw [read?, render, String.toList_ofList]
  exact readChars?_renderChars precision valid

theorem fractionNanos_lt {digits : List Char} {nanos : Nat}
    (h : fractionNanos digits = some nanos) : nanos < Duration.nanosPerSecond := by
  obtain ⟨n, read, rfl⟩ := Option.map_eq_some_iff.1 h
  have length_le : (digits.take 9).length ≤ 9 := List.length_take_le _ _
  have pow : 10 ^ (digits.take 9).length * 10 ^ (9 - (digits.take 9).length) =
      Duration.nanosPerSecond := by
    rw [← Nat.pow_add, Nat.add_sub_cancel' length_le]
    rfl
  rw [← pow]
  exact Nat.mul_lt_mul_of_pos_right (Text.natural?_lt read) (Nat.pow_pos (by decide))

theorem fraction?_lt {s : List Char} {nanos : Nat} (h : fraction? s = some (nanos, rest)) :
    nanos < Duration.nanosPerSecond := by
  simp only [fraction?] at h
  split at h
  · obtain ⟨_, read, h⟩ := Option.map_eq_some_iff.1 h
    cases h
    exact fractionNanos_lt read
  · cases h
    decide

/-- A time of the day runs beyond a second only in the last second of a minute. -/
theorem time?_leap {s : List Char} {second nanos : Nat}
    (h : time? s = some ((second, nanos), rest)) :
    nanos < 2 * Duration.nanosPerSecond ∧
      (Duration.nanosPerSecond ≤ nanos → second % 60 = 59) := by
  simp only [time?, Option.bind_eq_bind, Option.bind_eq_some_iff] at h
  obtain ⟨⟨hour, _⟩, -, _, -, ⟨minute, _⟩, -, _, -, ⟨second', _⟩, -, ⟨nanos', _⟩, fraction, h⟩ := h
  have small := fraction?_lt fraction
  simp only at h
  split at h
  · split at h
    · cases h
      omega
    · cases h
      omega
  · cases h

theorem offsetAmount?_mod {s : List Char} {amount : Int}
    (h : offsetAmount? s = some (amount, rest)) : amount % 60 = 0 := by
  simp only [offsetAmount?, Option.bind_eq_bind, Option.bind_eq_some_iff] at h
  obtain ⟨⟨hours, _⟩, -, ⟨minutes, _⟩, -, h⟩ := h
  cases h
  omega

/-- Offsets are whole minutes. -/
theorem offset?_mod {s : List Char} {offset : Int} (h : offset? s = some (offset, rest)) :
    offset % 60 = 0 := by
  simp only [offset?] at h
  split at h
  · cases h
    rfl
  split at h
  · split at h
    · cases h
      rfl
    split at h
    · exact offsetAmount?_mod h
    split at h
    · obtain ⟨⟨amount, _⟩, read, h⟩ := Option.map_eq_some_iff.1 h
      cases h
      have := offsetAmount?_mod read
      omega
    · cases h
  · cases h

/-- Whatever text it comes from, a timestamp that was read has a text of its own. -/
theorem isValid_of_read? {text : String} {t : Timestamp} (h : read? text = some t) :
    t.IsValid := by
  obtain ⟨⟨date, s⟩, -, h⟩ := Option.bind_eq_some_iff.1 h
  have ends : ∀ s, ((time? s).bind fun x => (offset? (trimLeft x.2)).bind fun y =>
      if (trimLeft y.2).isEmpty ∧ y.1.natAbs < 86400 ∧ yearInRange (CivilDate.ofDays
          ((date.toDays * secondsPerDay + x.1.1 - y.1) / secondsPerDay)).year then
        some ⟨date.toDays * secondsPerDay + x.1.1 - y.1, x.1.2⟩
      else none) = some t → t.IsValid := by
    intro s h
    obtain ⟨⟨⟨second, nanos⟩, rest⟩, time, h⟩ := Option.bind_eq_some_iff.1 h
    obtain ⟨⟨offset, _⟩, zone, h⟩ := Option.bind_eq_some_iff.1 h
    obtain ⟨nanos_lt, leap⟩ := time?_leap time
    have minutes := offset?_mod zone
    split at h
    · next bounds =>
      cases h
      refine ⟨bounds.2.2, nanos_lt, ?_⟩
      intro beyond
      have last := leap beyond
      simp only [secondsPerDay]
      omega
    · cases h
  simp only [Option.bind_eq_bind] at h
  split at h
  · split at h
    · exact ends _ h
    · cases h
  · cases h

theorem Precision.keep_keep (precision : Precision) (nanos : Nat) :
    precision.keep (precision.keep nanos) = precision.keep nanos := by
  cases precision with
  | seconds => rfl
  | micros =>
      simp only [keep]
      omega
  | exact => rfl

theorem Precision.keep_le (precision : Precision) (nanos : Nat) :
    precision.keep nanos ≤ nanos := by
  cases precision with
  | seconds => exact Nat.zero_le _
  | micros => exact Nat.div_mul_le_self _ _
  | exact => exact le_rfl

/-- Cutting a timestamp keeps whether it lies in a leap second. -/
theorem cut_nanos_div (precision : Precision) (t : Timestamp) :
    (t.cut precision).nanos / Duration.nanosPerSecond = t.nanos / Duration.nanosPerSecond := by
  have le := precision.keep_le (t.nanos % Duration.nanosPerSecond)
  have lt := Nat.mod_lt t.nanos (y := Duration.nanosPerSecond) (by decide)
  refine Nat.div_eq_of_lt_le (Nat.le_add_right _ _) ?_
  rw [Nat.succ_mul]
  exact Nat.add_lt_add_left (le.trans_lt lt) _

theorem cut_nanos_mod (precision : Precision) (t : Timestamp) :
    (t.cut precision).nanos % Duration.nanosPerSecond =
      precision.keep (t.nanos % Duration.nanosPerSecond) := by
  have le := precision.keep_le (t.nanos % Duration.nanosPerSecond)
  have lt := Nat.mod_lt t.nanos (y := Duration.nanosPerSecond) (by decide)
  exact Nat.mul_add_mod_of_lt (a := t.nanos / Duration.nanosPerSecond) (le.trans_lt lt)

/-- Writing a timestamp twice loses no more than writing it once. -/
@[simp]
theorem cut_cut (precision : Precision) (t : Timestamp) :
    (t.cut precision).cut precision = t.cut precision := by
  rw [cut, cut_nanos_div, cut_nanos_mod, Precision.keep_keep]
  rfl

/-- A timestamp is cut as far as its text does not tell. -/
theorem render_cut (precision : Precision) (t : Timestamp) :
    (t.cut precision).render precision = t.render precision := by
  have decimals : renderFraction precision (precision.keep (t.nanos % Duration.nanosPerSecond)) =
      renderFraction precision (t.nanos % Duration.nanosPerSecond) := by
    cases precision with
    | seconds => rfl
    | micros => simp [renderFraction, Precision.keep]
    | exact => rfl
  rw [render, renderChars, cut_nanos_div, cut_nanos_mod, decimals]
  rfl

/-- The exact text loses nothing. -/
theorem cut_exact (t : Timestamp) : t.cut .exact = t := by
  have whole := Nat.div_add_mod' t.nanos Duration.nanosPerSecond
  cases t
  simpa [cut, Precision.keep] using whole

theorem IsValid.cut {t : Timestamp} (valid : t.IsValid) (precision : Precision) :
    (t.cut precision).IsValid := by
  have le := precision.keep_le (t.nanos % Duration.nanosPerSecond)
  have whole := Nat.div_add_mod' t.nanos Duration.nanosPerSecond
  refine ⟨valid.year, lt_of_le_of_lt ?_ valid.nanos, fun beyond => valid.leap ?_⟩
  · simp only [Timestamp.cut]
    omega
  · simp only [Timestamp.cut] at beyond
    omega

theorem cut_micros (t : Timestamp) : t.cut .micros = t.truncateMicros := by
  simp only [cut, truncateMicros, Precision.keep, Duration.nanosPerSecond, Timestamp.mk.injEq,
    true_and]
  omega

theorem truncateMicros_eq_self_iff {t : Timestamp} : t.truncateMicros = t ↔ 1000 ∣ t.nanos := by
  cases t with
  | mk seconds nanos =>
      rw [truncateMicros, mk.injEq, Nat.dvd_iff_div_mul_eq]
      exact and_iff_right rfl

end GatedManager.Timestamp
