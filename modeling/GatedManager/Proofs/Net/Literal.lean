import GatedManager.Proofs.Net.Ipv4

/-!
# The characters of address literals

What is read of a text as a number, as an address or as a part of one consists of hexadecimal
digits, points and colons. So a text that denotes an address has no other characters.
-/

namespace GatedManager.Net

variable {base width n : Nat} {zeros first : Bool} {sep : Char} {s t rest : List Char}

/-- The characters that address literals are made of. -/
def isLiteral (c : Char) : Bool := isDigitIn 16 c || c == '.' || c == ':'

/-- What is left of `s` is `rest`, after some characters of a literal. -/
def Consumes (s rest : List Char) : Prop := ∃ token, s = token ++ rest ∧ ∀ c ∈ token, isLiteral c

theorem Consumes.refl (s : List Char) : Consumes s s := ⟨[], rfl, List.forall_mem_nil _⟩

theorem Consumes.trans (h : Consumes s t) (h' : Consumes t rest) : Consumes s rest := by
  obtain ⟨token, rfl, literal⟩ := h
  obtain ⟨token', rfl, literal'⟩ := h'
  exact ⟨token ++ token', by simp, List.forall_mem_append.2 ⟨literal, literal'⟩⟩

theorem Consumes.cons {c : Char} (h : isLiteral c) (s : List Char) : Consumes (c :: s) s :=
  ⟨[c], rfl, List.forall_mem_singleton.2 h⟩

theorem isLiteral_of_isDigitIn {c : Char} (le : base ≤ 16) (h : isDigitIn base c) :
    isLiteral c := by
  obtain ⟨d, read⟩ := Option.isSome_iff_exists.1 h
  obtain ⟨value, small⟩ := Option.filter_eq_some_iff.1 read
  have below : d < base := by simpa using small
  have digit : Text.digit? 16 c = some d :=
    Option.filter_eq_some_iff.2 ⟨value, by simpa using Nat.lt_of_lt_of_le below le⟩
  simp [isLiteral, isDigitIn, digit]

theorem consumes_afterSeparator (literal : isLiteral sep)
    (h : afterSeparator sep first s = some rest) : Consumes s rest := by
  cases first with
  | true =>
      cases h
      exact Consumes.refl s
  | false =>
      cases s with
      | nil => cases h
      | cons c s =>
          simp only [afterSeparator, Bool.false_eq_true, if_false, Option.ite_none_right_eq_some,
            Option.some.injEq] at h
          obtain ⟨rfl, rfl⟩ := h
          exact Consumes.cons literal _

theorem consumes_readNumber (le : base ≤ 16)
    (h : readNumber base width zeros s = some (n, rest)) : Consumes s rest := by
  refine ⟨s.takeWhile (isDigitIn base), ?_, fun c hc => ?_⟩
  · rw [readNumber_rest h, List.takeWhile_append_dropWhile]
  · exact isLiteral_of_isDigitIn le (List.mem_takeWhile_imp hc)

theorem consumes_readOctets {count : Nat} {octets : List UInt8}
    (h : readOctets count first s = some (octets, rest)) : Consumes s rest := by
  induction count generalizing first s octets with
  | zero =>
      cases h
      exact Consumes.refl _
  | succ count ih =>
      simp only [readOctets, Option.bind_eq_bind, Option.bind_eq_some_iff, Prod.exists] at h
      obtain ⟨item, separator, octet, after, number, h⟩ := h
      have read := (consumes_afterSeparator (by decide) separator).trans
        (consumes_readNumber (by decide) number)
      split at h
      · simp only [Option.bind_eq_some_iff, Prod.exists] at h
        obtain ⟨others, left, onward, h⟩ := h
        cases h
        exact read.trans (ih onward)
      · cases h

theorem consumes_readIpv4 {address : Ipv4} (h : Ipv4.read s = some (address, rest)) :
    Consumes s rest := by
  rw [Ipv4.read] at h
  split at h
  · next octets after read =>
    split at h
    · cases h
      exact consumes_readOctets read
    · cases h
  · cases h

theorem consumes_readGroups (limit : Nat) (first : Bool) (s : List Char) :
    Consumes s (readGroups limit first s).2.2 := by
  induction limit generalizing first s with
  | zero => exact Consumes.refl s
  | succ limit ih =>
      rw [readGroups]
      dsimp only
      split
      · next address rest embedded =>
        split at embedded
        · cases embedded
        · obtain ⟨item, separator, read⟩ := Option.bind_eq_some_iff.1 embedded
          exact (consumes_afterSeparator (by decide) separator).trans (consumes_readIpv4 read)
      · split
        · next group rest number =>
          obtain ⟨item, separator, read⟩ := Option.bind_eq_some_iff.1 number
          exact ((consumes_afterSeparator (by decide) separator).trans
            (consumes_readNumber (by decide) read)).trans (ih false rest)
        · exact Consumes.refl s

theorem consumes_readIpv6 {address : Ipv6} (h : Ipv6.read s = some (address, rest)) :
    Consumes s rest := by
  have head := consumes_readGroups 8 true s
  rw [Ipv6.read] at h
  dsimp only at h
  split at h
  · cases h
    exact head
  · split at h
    · cases h
    · split at h
      · next more left =>
        rw [left] at head
        split at h
        · cases h
          have colon : isLiteral ':' := by decide
          exact ((head.trans (Consumes.cons colon _)).trans (Consumes.cons colon _)).trans
            (consumes_readGroups _ true more)
        · cases h
      · cases h

theorem isLiteral_of_consumes (h : Consumes s []) : ∀ c ∈ s, isLiteral c := by
  obtain ⟨token, rfl, literal⟩ := h
  rwa [List.append_nil]

/-- A text that denotes an address consists of hexadecimal digits, points and colons. -/
theorem isLiteral_of_read {ip : Ip} (h : Ip.read s = some ip) : ∀ c ∈ s, isLiteral c := by
  rw [Ip.read] at h
  split at h
  · next address read => exact isLiteral_of_consumes (consumes_readIpv4 read)
  · split at h
    · next address read => exact isLiteral_of_consumes (consumes_readIpv6 read)
    · cases h

end GatedManager.Net
