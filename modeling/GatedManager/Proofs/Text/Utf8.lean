import GatedManager.Text.Utf8
import Mathlib.Data.String.Basic

/-!
# UTF-8 and characters

Texts are ordered as their bytes are, and bytes decode to a text exactly when they are its encoding.
A byte below 128 stands for the character with this number and occurs in the encoding of no other.
-/

namespace GatedManager.Text

open String (utf8EncodeChar)

variable {c d : Char} {b : UInt8} {s t : List Char} {bytes rest : List UInt8}

/-- A number with the bytes of its encoding: the shortest for the number, with six bits of it in
each byte but the first. -/
inductive Encoded : Nat → List UInt8 → Prop
  | one {n : Nat} : n < 0x80 → Encoded n [.ofNat n]
  | two {p q : Nat} : q < 64 → 0x80 ≤ 64 * p + q → 64 * p + q < 0x800 →
      Encoded (64 * p + q) [.ofNat (p + 192), .ofNat (q + 128)]
  | three {p q r : Nat} : q < 64 → r < 64 → 0x800 ≤ 4096 * p + 64 * q + r →
      4096 * p + 64 * q + r < 0x10000 →
      Encoded (4096 * p + 64 * q + r) [.ofNat (p + 224), .ofNat (q + 128), .ofNat (r + 128)]
  | four {p q r s : Nat} : q < 64 → r < 64 → s < 64 →
      0x10000 ≤ 262144 * p + 4096 * q + 64 * r + s →
      262144 * p + 4096 * q + 64 * r + s < 0x110000 →
      Encoded (262144 * p + 4096 * q + 64 * r + s)
        [.ofNat (p + 240), .ofNat (q + 128), .ofNat (r + 128), .ofNat (s + 128)]

theorem toNat_lt_limit (c : Char) : c.toNat < 0x110000 := by
  have valid := c.valid
  simp only [UInt32.isValidChar, Nat.isValidChar] at valid
  change c.val.toNat < _
  omega

theorem encoded_utf8EncodeChar (c : Char) : Encoded c.toNat (utf8EncodeChar c) := by
  have limit := toNat_lt_limit c
  have two : c.toNat = 64 * (c.toNat / 64) + c.toNat % 64 := by omega
  have three : c.toNat = 4096 * (c.toNat / 4096) + 64 * (c.toNat / 64 % 64) + c.toNat % 64 := by
    omega
  have four : c.toNat = 262144 * (c.toNat / 262144) + 4096 * (c.toNat / 4096 % 64) +
      64 * (c.toNat / 64 % 64) + c.toNat % 64 := by
    omega
  unfold utf8EncodeChar
  dsimp only
  rw [Char.toNat_val]
  split
  · exact .one (by omega)
  split
  · rw [Nat.mod_eq_of_lt (by omega : c.toNat / 64 < 32)]
    have form := Encoded.two (p := c.toNat / 64) (q := c.toNat % 64)
      (by omega) (by omega) (by omega)
    rwa [← two] at form
  split
  · rw [Nat.mod_eq_of_lt (by omega : c.toNat / 4096 < 16)]
    have form := Encoded.three (p := c.toNat / 4096) (q := c.toNat / 64 % 64) (r := c.toNat % 64)
      (by omega) (by omega) (by omega) (by omega)
    rwa [← three] at form
  · rw [Nat.mod_eq_of_lt (by omega : c.toNat / 262144 < 8)]
    have form := Encoded.four (p := c.toNat / 262144) (q := c.toNat / 4096 % 64)
      (r := c.toNat / 64 % 64) (s := c.toNat % 64) (by omega) (by omega) (by omega) (by omega)
      (by omega)
    rwa [← four] at form

/-! ### Order -/

theorem Encoded.append_lt {m n : Nat} {x y : List UInt8} (hm : Encoded m x) (hn : Encoded n y)
    (less : m < n) (x' y' : List UInt8) : x ++ x' < y ++ y' := by
  cases hm <;> cases hn <;>
    simp only [List.cons_append, List.nil_append, List.cons_lt_cons_iff, UInt8.lt_iff_toNat_lt,
      ← UInt8.toNat_inj, UInt8.toNat_ofNat'] <;> omega

theorem Encoded.unique {m n : Nat} {x y : List UInt8} (hm : Encoded m x) (hn : Encoded n y)
    (same : m = n) : x = y := by
  cases hm <;> cases hn <;>
    simp only [List.cons.injEq, ← UInt8.toNat_inj, UInt8.toNat_ofNat', and_true] <;> omega

theorem Encoded.ne_nil {n : Nat} {x : List UInt8} (h : Encoded n x) : x ≠ [] := by
  cases h <;> exact List.cons_ne_nil _ _

/-- The bytes of a text come before those of a later one. -/
theorem utf8Encode_lt (h : s < t) : utf8Encode s < utf8Encode t := by
  induction s generalizing t with
  | nil =>
      cases t with
      | nil => exact absurd h (lt_irrefl _)
      | cons d t =>
          change [] < (d :: t).flatMap utf8EncodeChar
          rw [List.flatMap_cons]
          cases first : utf8EncodeChar d with
          | nil => exact absurd first (encoded_utf8EncodeChar d).ne_nil
          | cons b bytes => exact List.nil_lt_cons _ _
  | cons c s ih =>
      cases t with
      | nil => exact absurd h (List.not_lt_nil _)
      | cons d t =>
          simp only [utf8Encode, List.flatMap_cons]
          rcases List.cons_lt_cons_iff.1 h with less | ⟨rfl, less⟩
          · have numbers : c.toNat < d.toNat := by
              simpa [Char.lt_def, UInt32.lt_iff_toNat_lt] using less
            exact (encoded_utf8EncodeChar c).append_lt (encoded_utf8EncodeChar d) numbers _ _
          · exact List.append_left_lt (ih less)

/-! ### Decoding -/

theorem continuation?_eq_some_iff {q : Nat} :
    continuation? b = some q ↔ q < 64 ∧ b = .ofNat (q + 128) := by
  have bound := b.toNat_lt
  simp only [continuation?, UInt8.le_iff_toNat_le, UInt8.lt_iff_toNat_lt, ← UInt8.toNat_inj,
    UInt8.toNat_ofNat', UInt8.toNat_ofNat, Option.ite_none_right_eq_some, Option.some.injEq,
    Nat.reducePow, Nat.reduceMod]
  omega

/-- The leading bytes with the number of bytes that follow, the payload and the least number. -/
theorem leading?_eq_some_iff {count payload least : Nat} :
    leading? b = some (count, payload, least) ↔
      (count = 0 ∧ least = 0 ∧ payload < 128 ∧ b = .ofNat payload) ∨
      (count = 1 ∧ least = 0x80 ∧ payload < 32 ∧ b = .ofNat (payload + 192)) ∨
      (count = 2 ∧ least = 0x800 ∧ payload < 16 ∧ b = .ofNat (payload + 224)) ∨
      (count = 3 ∧ least = 0x10000 ∧ payload < 8 ∧ b = .ofNat (payload + 240)) := by
  have bound := b.toNat_lt
  simp only [leading?, UInt8.le_iff_toNat_le, UInt8.lt_iff_toNat_lt, UInt8.toNat_ofNat,
    Nat.reducePow, Nat.reduceMod, ← UInt8.toNat_inj, UInt8.toNat_ofNat']
  split_ifs <;> simp only [Option.some.injEq, Prod.mk.injEq, false_iff] <;> omega

theorem continuations?_succ {count read n : Nat}
    (h : continuations? (count + 1) read bytes = some (n, rest)) :
    ∃ q more, q < 64 ∧ bytes = .ofNat (q + 128) :: more ∧
      continuations? count (read * 64 + q) more = some (n, rest) := by
  cases bytes with
  | nil => cases h
  | cons b bytes =>
      obtain ⟨q, payload, onward⟩ := Option.bind_eq_some_iff.1 h
      obtain ⟨small, rfl⟩ := continuation?_eq_some_iff.1 payload
      exact ⟨q, bytes, small, rfl, onward⟩

theorem continuations?_cons {count read q : Nat} (small : q < 64) :
    continuations? (count + 1) read (.ofNat (q + 128) :: bytes) =
      continuations? count (read * 64 + q) bytes := by
  rw [continuations?, continuation?_eq_some_iff.2 ⟨small, rfl⟩, Option.bind_some]

/-- What is read from a leading byte and those that follow it is the number that they encode. -/
theorem encoded_of_continuations? {count payload least n : Nat}
    (lead : leading? b = some (count, payload, least))
    (follow : continuations? count payload bytes = some (n, rest)) (shortest : least ≤ n)
    (limit : n < 0x110000) : ∃ x, Encoded n x ∧ b :: bytes = x ++ rest := by
  rcases leading?_eq_some_iff.1 lead with ⟨rfl, rfl, small, rfl⟩ | ⟨rfl, rfl, small, rfl⟩ |
    ⟨rfl, rfl, small, rfl⟩ | ⟨rfl, rfl, small, rfl⟩
  · obtain ⟨rfl, rfl⟩ := Prod.mk.inj (Option.some.inj follow)
    exact ⟨_, .one small, rfl⟩
  · obtain ⟨q, more, hq, rfl, done⟩ := continuations?_succ follow
    obtain ⟨sum, rfl⟩ := Prod.mk.inj (Option.some.inj done)
    obtain rfl : n = 64 * payload + q := by omega
    exact ⟨_, .two hq shortest (by omega), rfl⟩
  · obtain ⟨q, more, hq, rfl, follow'⟩ := continuations?_succ follow
    obtain ⟨r, more', hr, rfl, done⟩ := continuations?_succ follow'
    obtain ⟨sum, rfl⟩ := Prod.mk.inj (Option.some.inj done)
    obtain rfl : n = 4096 * payload + 64 * q + r := by omega
    exact ⟨_, .three hq hr shortest (by omega), rfl⟩
  · obtain ⟨q, more, hq, rfl, follow'⟩ := continuations?_succ follow
    obtain ⟨r, more', hr, rfl, follow''⟩ := continuations?_succ follow'
    obtain ⟨s, more'', hs, rfl, done⟩ := continuations?_succ follow''
    obtain ⟨sum, rfl⟩ := Prod.mk.inj (Option.some.inj done)
    obtain rfl : n = 262144 * payload + 4096 * q + 64 * r + s := by omega
    exact ⟨_, .four hq hr hs shortest limit, rfl⟩

/-- The bytes that encode a number are a leading one and those that follow it. -/
theorem Encoded.exists_leading {n : Nat} {x : List UInt8} (h : Encoded n x) (rest : List UInt8) :
    ∃ b bytes count payload least, x = b :: bytes ∧ leading? b = some (count, payload, least) ∧
      continuations? count payload (bytes ++ rest) = some (n, rest) ∧ least ≤ n := by
  cases h with
  | one small =>
      exact ⟨_, _, _, _, _, rfl, leading?_eq_some_iff.2 (.inl ⟨rfl, rfl, small, rfl⟩), rfl,
        Nat.zero_le _⟩
  | two hq least limit =>
      refine ⟨_, _, _, _, _, rfl,
        leading?_eq_some_iff.2 (.inr (.inl ⟨rfl, rfl, by omega, rfl⟩)), ?_, least⟩
      rw [List.cons_append, continuations?_cons hq, Nat.mul_comm]
      rfl
  | @three p q r hq hr least limit =>
      refine ⟨_, _, _, _, _, rfl,
        leading?_eq_some_iff.2 (.inr (.inr (.inl ⟨rfl, rfl, by omega, rfl⟩))), ?_, least⟩
      have sum : (p * 64 + q) * 64 + r = 4096 * p + 64 * q + r := by omega
      rw [List.cons_append, continuations?_cons hq, List.cons_append, continuations?_cons hr, sum]
      rfl
  | @four p q r s hq hr hs least limit =>
      refine ⟨_, _, _, _, _, rfl,
        leading?_eq_some_iff.2 (.inr (.inr (.inr ⟨rfl, rfl, by omega, rfl⟩))), ?_, least⟩
      have sum : ((p * 64 + q) * 64 + r) * 64 + s = 262144 * p + 4096 * q + 64 * r + s := by omega
      rw [List.cons_append, continuations?_cons hq, List.cons_append, continuations?_cons hr,
        List.cons_append, continuations?_cons hs, sum]
      rfl

theorem toNat_ofNatAux {n : Nat} (valid : n.isValidChar) : (Char.ofNatAux n valid).toNat = n := rfl

/-- The bytes of a character are decoded to it, and no other bytes are. -/
theorem decodeChar?_eq_some_iff :
    decodeChar? bytes = some (c, rest) ↔ bytes = utf8EncodeChar c ++ rest := by
  constructor
  · intro h
    cases bytes with
    | nil => cases h
    | cons b bytes =>
        obtain ⟨⟨count, payload, least⟩, lead, h⟩ := Option.bind_eq_some_iff.1 h
        obtain ⟨⟨n, left⟩, follow, h⟩ := Option.bind_eq_some_iff.1 h
        by_cases valid : least ≤ n ∧ n.isValidChar
        · cases (dif_pos valid).symm.trans h
          have number := toNat_ofNatAux valid.2
          obtain ⟨x, form, whole⟩ := encoded_of_continuations? lead follow valid.1
            (number ▸ toNat_lt_limit _)
          rw [whole, form.unique (encoded_utf8EncodeChar _) number.symm]
        · cases (dif_neg valid).symm.trans h
  · rintro rfl
    obtain ⟨b, bytes, count, payload, least, whole, lead, follow, shortest⟩ :=
      (encoded_utf8EncodeChar c).exists_leading rest
    have valid : least ≤ c.toNat ∧ c.toNat.isValidChar := ⟨shortest, c.valid⟩
    have back : Char.ofNatAux c.toNat valid.2 = c := Char.toNat_inj.1 (toNat_ofNatAux valid.2)
    rw [whole]
    refine Option.bind_eq_some_iff.2 ⟨_, lead, Option.bind_eq_some_iff.2 ⟨_, follow, ?_⟩⟩
    exact (dif_pos valid).trans (congrArg (fun c => some (c, rest)) back)

theorem utf8Encode_of_decodeChars? {fuel : Nat} (h : decodeChars? fuel bytes = some s) :
    bytes = utf8Encode s := by
  induction fuel generalizing bytes s with
  | zero =>
      cases bytes with
      | nil =>
          cases h
          rfl
      | cons b bytes => cases h
  | succ fuel ih =>
      cases bytes with
      | nil =>
          cases h
          rfl
      | cons b bytes =>
          simp only [decodeChars?, Option.bind_eq_bind, Option.bind_eq_some_iff, Prod.exists] at h
          obtain ⟨c, rest, first, s, onward, h⟩ := h
          cases h
          rw [decodeChar?_eq_some_iff.1 first, ih onward]
          rfl

theorem decodeChars?_utf8Encode {fuel : Nat} (enough : s.length ≤ fuel) :
    decodeChars? fuel (utf8Encode s) = some s := by
  induction s generalizing fuel with
  | nil => cases fuel <;> rfl
  | cons c s ih =>
      obtain ⟨fuel, rfl⟩ := Nat.exists_eq_succ_of_ne_zero (by simp at enough; omega : fuel ≠ 0)
      have first : decodeChar? (utf8Encode (c :: s)) = some (c, utf8Encode s) :=
        decodeChar?_eq_some_iff.2 rfl
      cases whole : utf8Encode (c :: s) with
      | nil =>
          rw [whole] at first
          cases first
      | cons b bytes =>
          rw [whole] at first
          simp [decodeChars?, first, ih (by simpa using enough)]

theorem length_le_utf8Encode (s : List Char) : s.length ≤ (utf8Encode s).length := by
  induction s with
  | nil => exact Nat.zero_le _
  | cons c s ih =>
      have bytes := List.length_pos_iff.2 (encoded_utf8EncodeChar c).ne_nil
      simp only [utf8Encode, List.flatMap_cons, List.length_append, List.length_cons] at ih ⊢
      omega

/-- Bytes decode to a text exactly when they are its encoding. -/
theorem utf8Decode?_eq_some_iff : utf8Decode? bytes = some s ↔ bytes = utf8Encode s := by
  constructor
  · exact utf8Encode_of_decodeChars?
  · rintro rfl
    exact decodeChars?_utf8Encode (length_le_utf8Encode s)

/-! ### Bytes below 128 -/

theorem Encoded.eq_of_mem {n : Nat} {x : List UInt8} (h : Encoded n x) (mem : b ∈ x)
    (small : b.toNat < 128) : n = b.toNat := by
  cases h <;>
    simp only [List.mem_cons, List.not_mem_nil, or_false, ← UInt8.toNat_inj,
      UInt8.toNat_ofNat'] at mem <;> omega

theorem utf8EncodeChar_of_lt (small : c.toNat < 128) : utf8EncodeChar c = [.ofNat c.toNat] :=
  (encoded_utf8EncodeChar c).unique (.one small) rfl

/-- The byte of a character below 128 is where the character is. -/
theorem mem_utf8Encode_iff (small : c.toNat < 128) :
    UInt8.ofNat c.toNat ∈ utf8Encode s ↔ c ∈ s := by
  have back : (UInt8.ofNat c.toNat).toNat = c.toNat := by
    rw [UInt8.toNat_ofNat']
    omega
  rw [utf8Encode, List.mem_flatMap]
  constructor
  · rintro ⟨d, found, mem⟩
    have number := (encoded_utf8EncodeChar d).eq_of_mem mem (by omega)
    exact Char.toNat_inj.1 (number.trans back) ▸ found
  · intro found
    refine ⟨c, found, ?_⟩
    rw [utf8EncodeChar_of_lt small]
    exact List.mem_cons_self

end GatedManager.Text
