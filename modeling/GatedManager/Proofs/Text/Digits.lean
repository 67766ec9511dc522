import GatedManager.Duration
import GatedManager.Proofs.Text.Split
import GatedManager.Text.Numeral
import Mathlib.Tactic.NormNum

/-!
# Digits

Numbers are written with leading zeros up to a width, and a run of decimal digits is read back as
the number it denotes. So is a number that is written without leading zeros, in any base up to
sixteen.
-/

namespace GatedManager

open Duration (padded)

namespace Text

theorem digit?_of_isDigit {c : Char} (h : c.isDigit) :
    digit? 10 c = some (c.toNat - '0'.toNat) := by
  have hrange : '0' ≤ c ∧ c ≤ '9' := by
    simpa [Char.isDigit, Char.le_def, UInt32.le_iff_toNat_le] using h
  have hle : c.toNat ≤ '9'.toNat := by
    simpa [Char.le_def, UInt32.le_iff_toNat_le] using hrange.2
  have hlt : c.toNat - '0'.toNat < 10 := by
    have h9 : '9'.toNat = 57 := rfl
    have h0 : '0'.toNat = 48 := rfl
    omega
  simp only [digit?, if_pos hrange, Option.filter_some, hlt, decide_true, if_true]

/-- A run of digits denotes the number with these digits. -/
theorem natural?_of_isDigit {s : List Char} (hne : s ≠ []) (h : ∀ c ∈ s, c.isDigit) :
    natural? 10 s = some (Nat.ofDigitChars 10 s 0) := by
  have hm : s.mapM (digit? 10) = some (s.map fun c => c.toNat - '0'.toNat) := by
    clear hne
    induction s with
    | nil => rfl
    | cons c s ih =>
        have hs := ih fun d hd => h d (List.mem_cons_of_mem _ hd)
        simp [List.mapM_cons, digit?_of_isDigit (h c List.mem_cons_self), hs]
  have hempty : s.isEmpty = false := by simpa using hne
  simp only [natural?, hempty, hm, digitsValue, Nat.ofDigitChars, List.foldl_map,
    Option.map_some, Bool.false_eq_true, if_false]

theorem isDigit_of_digit? {c : Char} (h : (digit? 10 c).isSome) : c.isDigit := by
  obtain ⟨d, read⟩ := Option.isSome_iff_exists.1 h
  obtain ⟨value, small⟩ := Option.filter_eq_some_iff.1 read
  have small : d < 10 := by simpa using small
  split at value
  · next range =>
    simpa [Char.isDigit, Char.le_def, UInt32.le_iff_toNat_le] using range
  · split at value
    · cases value
      omega
    · split at value
      · cases value
        omega
      · cases value

theorem range_of_digit? {base : Nat} {c : Char} (h : (digit? base c).isSome) :
    (48 ≤ c.toNat ∧ c.toNat ≤ 57) ∨ (97 ≤ c.toNat ∧ c.toNat ≤ 102) ∨
      (65 ≤ c.toNat ∧ c.toNat ≤ 70) := by
  obtain ⟨d, read⟩ := Option.isSome_iff_exists.1 h
  obtain ⟨value, -⟩ := Option.filter_eq_some_iff.1 read
  simp only [Char.le_def, UInt32.le_iff_toNat_le] at value
  split at value
  · next range => exact .inl range
  · split at value
    · next range => exact .inr (.inl range)
    · split at value
      · next range => exact .inr (.inr range)
      · cases value

theorem digit?_lt {base d : Nat} {c : Char} (h : digit? base c = some d) : d < base := by
  simpa using (Option.filter_eq_some_iff.1 h).2

theorem length_of_mapM {α β : Type} {f : α → Option β} {s : List α} {t : List β}
    (h : s.mapM f = some t) : t.length = s.length := by
  induction s generalizing t with
  | nil =>
      cases h
      rfl
  | cons a s ih =>
      simp only [List.mapM_cons, Option.bind_eq_bind, Option.bind_eq_some_iff] at h
      obtain ⟨b, -, t, rest, h⟩ := h
      cases h
      rw [List.length_cons, List.length_cons, ih rest]

theorem isSome_of_mapM {α β : Type} {f : α → Option β} {s : List α} {t : List β}
    (h : s.mapM f = some t) : ∀ a ∈ s, (f a).isSome := by
  induction s generalizing t with
  | nil => exact List.forall_mem_nil _
  | cons a s ih =>
      simp only [List.mapM_cons, Option.bind_eq_bind, Option.bind_eq_some_iff] at h
      obtain ⟨b, first, t, rest, -⟩ := h
      exact List.forall_mem_cons.2 ⟨by simp [first], ih rest⟩

/-- The texts that denote a decimal number are the runs of digits. -/
theorem natural?_eq_some_iff {s : List Char} {n : Nat} :
    natural? 10 s = some n ↔
      s ≠ [] ∧ (∀ c ∈ s, c.isDigit) ∧ Nat.ofDigitChars 10 s 0 = n := by
  constructor
  · intro h
    have ne_nil : s ≠ [] := by
      rintro rfl
      cases h
    have digits : ∀ c ∈ s, c.isDigit := by
      have empty : s.isEmpty = false := by simpa using ne_nil
      simp only [natural?, empty, Bool.false_eq_true, if_false, Option.map_eq_some_iff] at h
      obtain ⟨digits, read, -⟩ := h
      intro c hc
      exact isDigit_of_digit? (isSome_of_mapM read c hc)
    refine ⟨ne_nil, digits, ?_⟩
    exact Option.some.inj ((natural?_of_isDigit ne_nil digits).symm.trans h)
  · rintro ⟨ne_nil, digits, rfl⟩
    exact natural?_of_isDigit ne_nil digits

/-- A number is read from a run of digits, which a plus sign may precede. -/
theorem unsigned?_eq_some_iff {limit n : Nat} {text : List Char} :
    unsigned? limit text = some n ↔
      ∃ sign digits, text = sign ++ digits ∧ (sign = [] ∨ sign = ['+']) ∧
        natural? 10 digits = some n ∧ n < limit := by
  constructor
  · intro h
    obtain ⟨read, small⟩ := Option.filter_eq_some_iff.1 h
    have small : n < limit := by simpa using small
    split at read
    · next digits => exact ⟨['+'], digits, rfl, .inr rfl, read, small⟩
    · exact ⟨[], text, rfl, .inl rfl, read, small⟩
  · rintro ⟨sign, digits, rfl, signed, read, small⟩
    refine Option.filter_eq_some_iff.2 ⟨?_, by simpa using small⟩
    rcases signed with rfl | rfl
    · split
      · next rest same =>
        have mem : '+' ∈ digits := (show digits = '+' :: rest from same) ▸ List.mem_cons_self
        exact absurd ((natural?_eq_some_iff.1 read).2.1 '+' mem) (by decide)
      · exact read
    · exact read

theorem digit_lt_of_mapM {base : Nat} {s : List Char} {digits : List Nat}
    (h : s.mapM (digit? base) = some digits) : ∀ d ∈ digits, d < base := by
  induction s generalizing digits with
  | nil =>
      cases h
      exact List.forall_mem_nil _
  | cons c s ih =>
      simp only [List.mapM_cons, Option.bind_eq_bind, Option.bind_eq_some_iff] at h
      obtain ⟨d, first, digits, rest, h⟩ := h
      cases h
      exact List.forall_mem_cons.2 ⟨digit?_lt first, ih rest⟩

theorem digitsValue_lt {base : Nat} {digits : List Nat} (h : ∀ d ∈ digits, d < base) :
    digitsValue base digits < base ^ digits.length := by
  have general : ∀ n, digits.foldl (fun n d => base * n + d) n <
      (n + 1) * base ^ digits.length := by
    induction digits with
    | nil => simp
    | cons d digits ih =>
        intro n
        have small := h d List.mem_cons_self
        calc (d :: digits).foldl (fun n d => base * n + d) n
          _ < (base * n + d + 1) * base ^ digits.length :=
              ih (fun e he => h e (List.mem_cons_of_mem _ he)) _
          _ ≤ ((n + 1) * base) * base ^ digits.length :=
              Nat.mul_le_mul_right _ (by rw [Nat.add_one_mul, Nat.mul_comm n]; omega)
          _ = (n + 1) * base ^ (d :: digits).length := by
              rw [List.length_cons, Nat.pow_succ', Nat.mul_assoc]
  simpa [digitsValue] using general 0

/-- A run of digits denotes a number below the power of the base with as many digits. -/
theorem natural?_lt {base n : Nat} {s : List Char} (h : natural? base s = some n) :
    n < base ^ s.length := by
  simp only [natural?] at h
  split at h
  · cases h
  obtain ⟨digits, read, rfl⟩ := Option.map_eq_some_iff.1 h
  rw [← length_of_mapM read]
  exact digitsValue_lt (digit_lt_of_mapM read)

/-- A number is known by its decimal digits. -/
theorem eq_of_toString_eq {m n : Nat} (h : toString m = toString n) : m = n := by
  have digits : Nat.toDigits 10 m = Nat.toDigits 10 n := by
    rw [← Nat.toList_repr, ← Nat.toList_repr]
    exact congrArg String.toList h
  rw [← Nat.ofDigitChars_ten_toDigits (n := m), digits, Nat.ofDigitChars_ten_toDigits]

/-! ### Numbers without leading zeros -/

section Written

variable {base d n : Nat}

theorem digit?_digitChar (small : d < 16) (h : d < base) : digit? base d.digitChar = some d := by
  have all : ∀ d < 16, digit? 16 d.digitChar = some d := by decide
  obtain ⟨value, -⟩ := Option.filter_eq_some_iff.1 (all d small)
  exact Option.filter_eq_some_iff.2 ⟨value, by simpa using h⟩

theorem digitsValue_append (digits : List Nat) (d : Nat) :
    digitsValue base (digits ++ [d]) = base * digitsValue base digits + d := by
  simp [digitsValue]

theorem mapM_digit?_toDigits (one_lt : 1 < base) (le : base ≤ 16) (n : Nat) :
    ∃ digits, (Nat.toDigits base n).mapM (digit? base) = some digits ∧
      digitsValue base digits = n := by
  induction n using Nat.strongRecOn with
  | ind n ih =>
      rcases Nat.lt_or_ge n base with small | large
      · refine ⟨[n], ?_, by simp [digitsValue]⟩
        rw [Nat.toDigits_of_lt_base small]
        simp [digit?_digitChar (by omega) small]
      · have last : n % base < base := Nat.mod_lt n (by omega)
        obtain ⟨digits, read, value⟩ := ih (n / base) (Nat.div_lt_self (by omega) one_lt)
        refine ⟨digits ++ [n % base], ?_, ?_⟩
        · rw [Nat.toDigits_of_base_le one_lt large, List.mapM_append]
          simp [read, digit?_digitChar (by omega) last]
        · rw [digitsValue_append, value, Nat.div_add_mod]

/-- A number is read back from its digits. -/
theorem natural?_toDigits (one_lt : 1 < base) (le : base ≤ 16) :
    natural? base (Nat.toDigits base n) = some n := by
  obtain ⟨digits, read, value⟩ := mapM_digit?_toDigits one_lt le n
  have digits_ne : (Nat.toDigits base n).isEmpty = false := by
    simp
  simp [natural?, digits_ne, read, value]

theorem isSome_of_mem_toDigits (one_lt : 1 < base) (le : base ≤ 16) {c : Char}
    (h : c ∈ Nat.toDigits base n) : (digit? base c).isSome := by
  obtain ⟨digits, read, -⟩ := mapM_digit?_toDigits one_lt le n
  exact isSome_of_mapM read c h

/-- A number other than zero does not start with a zero. -/
theorem head?_toDigits_ne (one_lt : 1 < base) (le : base ≤ 16) (h : n ≠ 0) :
    (Nat.toDigits base n).head? ≠ some '0' := by
  induction n using Nat.strongRecOn with
  | ind n ih =>
      rcases Nat.lt_or_ge n base with small | large
      · have all : ∀ d < 16, d ≠ 0 → d.digitChar ≠ '0' := by decide
        rw [Nat.toDigits_of_lt_base small]
        simpa using all n (by omega) h
      · have quotient : n / base ≠ 0 := (Nat.div_pos large (by omega)).ne'
        rw [Nat.toDigits_of_base_le one_lt large, List.head?_append]
        have first := List.head?_eq_some_head (Nat.toDigits_ne_nil (b := base) (n := n / base))
        rw [first, Option.some_or, ← first]
        exact ih (n / base) (Nat.div_lt_self (by omega) one_lt) quotient

end Written

end Text

namespace Duration

variable {width n : Nat}

theorem isDigit_of_mem_padded {c : Char} (h : c ∈ padded width n) : c.isDigit := by
  rcases List.mem_append.1 h with h | h
  · rw [List.eq_of_mem_replicate h]
    rfl
  · exact Nat.isDigit_of_mem_toDigits (by decide) (by decide) h

theorem padded_ne_nil : padded width n ≠ [] := by
  simp [padded]

/-- A number below `10 ^ width` is written with exactly `width` digits. -/
theorem length_padded (hw : 0 < width) (h : n < 10 ^ width) :
    (padded width n).length = width := by
  have hle := (Nat.length_toDigits_le_iff (by decide : 1 < 10) hw).2 h
  simp only [padded, List.length_append, List.length_replicate]
  omega

theorem ofDigitChars_padded : Nat.ofDigitChars 10 (padded width n) 0 = n := by
  simp [padded, Nat.ofDigitChars_append]

theorem natural?_padded : Text.natural? 10 (padded width n) = some n := by
  rw [Text.natural?_of_isDigit padded_ne_nil fun _ => isDigit_of_mem_padded, ofDigitChars_padded]

/-- The digits are what stands before the first character that is no digit. -/
theorem takeWhile_padded {rest : List Char} (h : ∀ c ∈ rest.head?, c.isDigit = false) :
    (padded width n ++ rest).takeWhile Char.isDigit = padded width n :=
  Text.takeWhile_append (fun _ => isDigit_of_mem_padded) h

theorem dropWhile_padded {rest : List Char} (h : ∀ c ∈ rest.head?, c.isDigit = false) :
    (padded width n ++ rest).dropWhile Char.isDigit = rest :=
  Text.dropWhile_append (fun _ => isDigit_of_mem_padded) h

end Duration

end GatedManager
