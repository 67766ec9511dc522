import GatedManager.Manager.Options
import GatedManager.Proofs.Net.Literal
import GatedManager.Proofs.Text.Split

/-!
# The grammar of bind addresses

A bind address is `host:port`: the port is a run of decimal digits, and the host is empty,
`localhost` or an address literal, in one pair of brackets or, unless it has a colon, without.
Every text of this grammar is read as the address and the port that it names. The reader takes more
than the grammar: a plus sign before the port, any number of opening brackets before the host and
of closing ones after it, and literals with a colon without brackets. Where none of these occurs,
it takes the texts of the grammar and no others.
-/

namespace GatedManager.Net

open Manager (ManagerError)
open Manager.Options (bindAddress)

variable {c : Char} {s text host core opening closing sign digits : List Char} {ip : Ip}
  {port : UInt16} {socket : Socket}

/-! ### Hosts and ports -/

/-- What a host stands for: every address when it is empty, the loopback address when it is
`localhost`, else the address that it denotes. -/
inductive Host : List Char → Ip → Prop
  | everywhere : Host [] (.v4 ⟨[0, 0, 0, 0], rfl⟩)
  | localhost : Host "localhost".toList (.v4 ⟨[127, 0, 0, 1], rfl⟩)
  | literal {host : List Char} {ip : Ip} : Ip.read host = some ip → Host host ip

/-- A run of decimal digits that denotes the port. -/
structure IsPort (digits : List Char) (port : UInt16) : Prop where
  ne_nil : digits ≠ []
  isDigit : ∀ c ∈ digits, c.isDigit
  value : Nat.ofDigitChars 10 digits 0 = port.toNat

theorem hostAddress?_eq_some_iff : hostAddress? host = some ip ↔ Host host ip := by
  constructor
  · intro h
    rw [hostAddress?] at h
    split at h
    · next empty =>
      obtain rfl := List.isEmpty_iff.1 empty
      cases h
      exact .everywhere
    · split at h
      · next same =>
        cases h
        exact same ▸ .localhost
      · exact .literal h
  · intro h
    cases h with
    | everywhere => rfl
    | localhost => rfl
    | literal read =>
        have literal := isLiteral_of_read read
        have ne_nil : host.isEmpty = false := by
          cases host with
          | nil => cases read
          | cons c host => rfl
        have ne_localhost : host ≠ "localhost".toList := by
          rintro rfl
          exact absurd (literal 'l' (by decide)) (by decide)
        rw [hostAddress?, ne_nil, if_neg Bool.false_ne_true, if_neg ne_localhost, read]

/-- A host has no bracket. -/
theorem Host.noBracket (h : Host host ip) : '[' ∉ host ∧ ']' ∉ host := by
  cases h with
  | everywhere => exact ⟨List.not_mem_nil, List.not_mem_nil⟩
  | localhost => decide
  | literal read =>
      have literal := isLiteral_of_read read
      refine ⟨fun bracket => ?_, fun bracket => ?_⟩
      · exact absurd (literal _ bracket) (by decide)
      · exact absurd (literal _ bracket) (by decide)

theorem isPort_toDigits (port : UInt16) : IsPort (Nat.toDigits 10 port.toNat) port where
  ne_nil := Nat.toDigits_ne_nil
  isDigit _ h := Nat.isDigit_of_mem_toDigits (by decide) (by decide) h
  value := Nat.ofDigitChars_ten_toDigits

theorem IsPort.notMem (h : IsPort digits port) (other : c.isDigit = false) : c ∉ digits := by
  intro mem
  exact absurd (h.isDigit c mem) (by simp [other])

theorem IsPort.notMem_signed (h : IsPort digits port) (signed : sign = [] ∨ sign = ['+']) :
    ':' ∉ sign ++ digits := by
  rw [List.mem_append, not_or]
  refine ⟨?_, h.notMem rfl⟩
  rcases signed with rfl | rfl <;> decide

theorem isPort_of_natural? {n : Nat} (h : Text.natural? 10 digits = some n) (small : n < 65536) :
    IsPort digits (UInt16.ofNat n) := by
  obtain ⟨ne_nil, isDigit, value⟩ := Text.natural?_eq_some_iff.1 h
  exact ⟨ne_nil, isDigit, by simp [value, Nat.mod_eq_of_lt small]⟩

theorem IsPort.natural? (h : IsPort digits port) :
    Text.natural? 10 digits = some port.toNat ∧ port.toNat < 65536 :=
  ⟨Text.natural?_eq_some_iff.2 ⟨h.ne_nil, h.isDigit, h.value⟩, port.toNat_lt⟩

/-! ### What is taken -/

/-- Brackets at the ends of a host that has none itself are dropped, whatever their number. -/
theorem unbracket_brackets (opening closing : List Char) (opens : ∀ c ∈ opening, c = '[') (closes : ∀ c ∈ closing, c = ']')
    (free : '[' ∉ core ∧ ']' ∉ core) : unbracket (opening ++ core ++ closing) = core := by
  have opened : (opening ++ (core ++ closing)).dropWhile (· == '[') = core ++ closing := by
    refine Text.dropWhile_append (fun c hc => beq_iff_eq.2 (opens c hc)) fun c hc => ?_
    rcases List.mem_append.1 (List.mem_of_mem_head? hc) with inside | closes_here
    · exact beq_eq_false_iff_ne.2 fun same => free.1 (same ▸ inside)
    · rw [closes c closes_here]
      rfl
  have closed : (closing.reverse ++ core.reverse).dropWhile (· == ']') = core.reverse := by
    refine Text.dropWhile_append (fun c hc => ?_) fun c hc => ?_
    · exact beq_iff_eq.2 (closes c (List.mem_reverse.1 hc))
    · have inside := List.mem_reverse.1 (List.mem_of_mem_head? hc)
      exact beq_eq_false_iff_ne.2 fun same => free.2 (same ▸ inside)
  rw [unbracket, List.append_assoc, opened, List.reverse_append, closed, List.reverse_reverse]

theorem exists_unbracket (host : List Char) :
    ∃ opening closing, host = opening ++ unbracket host ++ closing ∧
      (∀ c ∈ opening, c = '[') ∧ ∀ c ∈ closing, c = ']' := by
  let opened := host.dropWhile (· == '[')
  refine ⟨host.takeWhile (· == '['), (opened.reverse.takeWhile (· == ']')).reverse, ?_,
    fun c hc => ?_, fun c hc => ?_⟩
  · rw [unbracket, List.append_assoc, ← List.reverse_append, List.takeWhile_append_dropWhile,
      List.reverse_reverse, List.takeWhile_append_dropWhile]
  · simpa using List.mem_takeWhile_imp hc
  · simpa using List.mem_takeWhile_imp (List.mem_reverse.1 hc)

/-- The texts that are taken: those of the grammar, with any number of opening brackets before the
host and of closing ones after it, and perhaps with a plus sign before the port. -/
inductive Taken : List Char → Socket → Prop
  | mk (opening closing : List Char) {host sign digits : List Char} {ip : Ip} {port : UInt16} :
      (∀ c ∈ opening, c = '[') → Host host ip → (∀ c ∈ closing, c = ']') →
      sign = [] ∨ sign = ['+'] → IsPort digits port →
      Taken (opening ++ host ++ closing ++ ':' :: (sign ++ digits)) ⟨ip, port⟩

theorem readBindAddress_eq_none_iff {text : String} :
    readBindAddress text = .ok none ↔
      Text.trimChars text.toList = [] ∨ Text.trimChars text.toList = ['0'] := by
  rw [← List.isEmpty_iff]
  constructor
  · intro h
    by_contra enabled
    rw [readBindAddress, if_neg enabled] at h
    split at h
    · cases h
    · split at h
      · cases h
      · split at h <;> cases h
  · intro disabled
    rw [readBindAddress, if_pos disabled]

theorem taken_of_readBindAddress {text : String} (h : readBindAddress text = .ok (some socket)) :
    Taken (Text.trimChars text.toList) socket := by
  rw [readBindAddress] at h
  split at h
  · cases h
  · split at h
    · cases h
    · next host port split_host =>
      obtain ⟨free, whole⟩ := Text.splitLast_eq_some_iff.1 split_host
      split at h
      · cases h
      · next number read =>
        split at h
        · cases h
        · next ip denotes =>
          cases h
          obtain ⟨opening, closing, around, opens, closes⟩ := exists_unbracket host
          obtain ⟨sign, digits, rfl, signed, run, small⟩ := Text.unsigned?_eq_some_iff.1 read
          rw [whole, around]
          exact .mk opening closing opens (hostAddress?_eq_some_iff.1 denotes) closes signed
            (isPort_of_natural? run small)

theorem Taken.mem_colon (h : Taken s socket) : ':' ∈ s := by
  cases h
  simp

theorem readBindAddress_of_taken {text : String} (h : Taken (Text.trimChars text.toList) socket) :
    readBindAddress text = .ok (some socket) := by
  have enabled : ¬((Text.trimChars text.toList).isEmpty ∨ Text.trimChars text.toList = ['0']) := by
    rintro (empty | zero)
    · exact absurd h.mem_colon (by simp [List.isEmpty_iff.1 empty])
    · exact absurd h.mem_colon (by simp [zero])
  rw [readBindAddress, if_neg enabled]
  clear enabled
  revert h
  generalize Text.trimChars text.toList = s
  intro h
  cases h with
  | @mk opening closing host sign digits ip port opens stands closes signed run =>
      have free := run.notMem_signed signed
      have read := Text.unsigned?_eq_some_iff.2
        ⟨sign, digits, rfl, signed, run.natural?.1, run.natural?.2⟩
      have denotes : hostAddress? (unbracket (opening ++ host ++ closing)) = some ip := by
        rw [unbracket_brackets opening closing opens closes stands.noBracket]
        exact hostAddress?_eq_some_iff.2 stands
      rw [Text.splitLast_append free]
      simp only [read, denotes, UInt16.ofNat_toNat]

/-- The reader takes just these texts, blanks around them apart. -/
theorem readBindAddress_eq_some_iff {text : String} :
    readBindAddress text = .ok (some socket) ↔ Taken (Text.trimChars text.toList) socket :=
  ⟨taken_of_readBindAddress, readBindAddress_of_taken⟩

/-! ### The grammar -/

/-- `host:port`, the host being in brackets or, unless it has a colon, without. -/
inductive HostPort : List Char → Socket → Prop
  | plain {host digits : List Char} {ip : Ip} {port : UInt16} :
      Host host ip → ':' ∉ host → IsPort digits port →
      HostPort (host ++ ':' :: digits) ⟨ip, port⟩
  | bracketed {host digits : List Char} {ip : Ip} {port : UInt16} :
      Host host ip → IsPort digits port →
      HostPort (('[' :: host ++ [']']) ++ ':' :: digits) ⟨ip, port⟩

/-- No plus sign before what follows the last colon, and before that colon neither brackets nor
colons, except within one pair of brackets around all of it. -/
def Regular (s : List Char) : Prop :=
  ∀ host port, s = host ++ ':' :: port → ':' ∉ port →
    port.head? ≠ some '+' ∧
      (('[' ∉ host ∧ ']' ∉ host ∧ ':' ∉ host) ∨
        ∃ inner, host = '[' :: inner ++ [']'] ∧ '[' ∉ inner ∧ ']' ∉ inner)

theorem HostPort.taken (h : HostPort s socket) : Taken s socket := by
  cases h with
  | plain stands free run =>
      simpa using Taken.mk [] [] (by simp) stands (by simp) (.inl rfl) run
  | bracketed stands run =>
      simpa using Taken.mk ['['] [']'] (by simp) stands (by simp) (.inl rfl) run

theorem IsPort.head?_ne (h : IsPort digits port) : digits.head? ≠ some '+' := by
  intro plus
  exact absurd (h.isDigit '+' (List.mem_of_mem_head? plus)) (by decide)

theorem HostPort.regular (h : HostPort s socket) : Regular s := by
  intro host' port' whole free'
  cases h with
  | plain stands free run =>
      obtain ⟨rfl, rfl⟩ := Text.eq_of_append_eq (run.notMem rfl) free' whole
      exact ⟨run.head?_ne, .inl ⟨stands.noBracket.1, stands.noBracket.2, free⟩⟩
  | bracketed stands run =>
      obtain ⟨rfl, rfl⟩ := Text.eq_of_append_eq (run.notMem rfl) free' whole
      exact ⟨run.head?_ne, .inr ⟨_, rfl, stands.noBracket⟩⟩

/-- What is taken of regular texts are the texts of the grammar. -/
theorem Taken.hostPort (h : Taken s socket) (regular : Regular s) : HostPort s socket := by
  cases h with
  | @mk opening closing host sign digits ip port opens stands closes signed run =>
      have free := run.notMem_signed signed
      obtain ⟨unsigned, brackets⟩ := regular _ _ rfl free
      obtain rfl : sign = [] := by
        rcases signed with rfl | rfl
        · rfl
        · exact absurd rfl unsigned
      rcases brackets with ⟨noOpening, noClosing, noColon⟩ | ⟨inner, around, free_inner⟩
      · have same : opening ++ host ++ closing = host := by
          have dropped := unbracket_brackets [] [] nofun nofun ⟨noOpening, noClosing⟩
          rw [List.nil_append, List.append_nil] at dropped
          rw [← dropped]
          exact unbracket_brackets opening closing opens closes stands.noBracket
        rw [same] at noColon ⊢
        exact .plain stands noColon run
      · have same : host = inner := by
          rw [← unbracket_brackets opening closing opens closes stands.noBracket, around]
          exact unbracket_brackets ['['] [']'] (by simp) (by simp) free_inner
        rw [around, ← same]
        exact .bracketed stands run

theorem hostPort_iff : HostPort s socket ↔ Taken s socket ∧ Regular s :=
  ⟨fun h => ⟨h.taken, h.regular⟩, fun h => h.1.hostPort h.2⟩

theorem bindAddress_eq_ok_iff {text : String} {result : Option Socket} :
    bindAddress text = .ok result ↔ readBindAddress text = .ok result := by
  rw [bindAddress]
  cases readBindAddress text <;> simp

/-- The empty text and `0` disable a listener. Every text of the grammar is taken as what it says,
and what is taken of regular texts are the texts of the grammar; any other regular text is an
invalid bind address. Of all texts those are taken that differ from one of the grammar in a plus
sign and in the number of brackets. -/
theorem follows_grammar (text : String) :
    let s := Text.trimChars text.toList
    (bindAddress text = .ok none ↔ s = [] ∨ s = ['0']) ∧
    (∀ socket, HostPort s socket ↔ bindAddress text = .ok (some socket) ∧ Regular s) ∧
    (s ≠ [] → s ≠ ['0'] → Regular s → (∀ socket, ¬HostPort s socket) →
      ∃ fault : BindFault, bindAddress text = .error (.invalidBindAddress text fault.reason)) ∧
    ∀ socket, bindAddress text = .ok (some socket) ↔ Taken s socket := by
  intro s
  have disabled : bindAddress text = .ok none ↔ s = [] ∨ s = ['0'] :=
    bindAddress_eq_ok_iff.trans readBindAddress_eq_none_iff
  have taken : ∀ socket, bindAddress text = .ok (some socket) ↔ Taken s socket := fun socket =>
    bindAddress_eq_ok_iff.trans readBindAddress_eq_some_iff
  refine ⟨disabled, fun socket => ?_, fun ne_nil ne_zero regular other => ?_, taken⟩
  · rw [taken, hostPort_iff]
  · cases read : readBindAddress text with
    | error fault => exact ⟨fault, by simp [bindAddress, read]⟩
    | ok result =>
        have result_eq := bindAddress_eq_ok_iff.2 read
        cases result with
        | none =>
            rcases disabled.1 result_eq with empty | zero
            · exact absurd empty ne_nil
            · exact absurd zero ne_zero
        | some socket =>
            exact absurd (((taken socket).1 result_eq).hostPort regular) (other socket)

theorem loopback_follows_grammar :
    (HostPort "[::1]:8081".toList ⟨.v6 ⟨[0, 0, 0, 0, 0, 0, 0, 1], rfl⟩, 8081⟩ ∧
      bindAddress "\u3000[::1]:8081\n" =
        .ok (some ⟨.v6 ⟨[0, 0, 0, 0, 0, 0, 0, 1], rfl⟩, 8081⟩)) ∧
    Regular "9441".toList ∧ ∃ fault : BindFault,
      bindAddress "9441" = .error (.invalidBindAddress "9441" fault.reason) := by
  have port : IsPort "8081".toList 8081 := isPort_toDigits 8081
  have host : Host "::1".toList (.v6 ⟨[0, 0, 0, 0, 0, 0, 0, 1], rfl⟩) := .literal rfl
  have text : HostPort "[::1]:8081".toList ⟨.v6 ⟨[0, 0, 0, 0, 0, 0, 0, 1], rfl⟩, 8081⟩ :=
    .bracketed host port
  have noColon : ':' ∉ "9441".toList := by decide
  have regular : Regular "9441".toList := by
    intro host port whole
    exact absurd (by simp [whole]) noColon
  refine ⟨⟨text, (((follows_grammar "\u3000[::1]:8081\n").2.1 _).1 text).1⟩, regular, ?_⟩
  refine (follows_grammar "9441").2.2.1 (by decide) (by decide) regular fun socket h => ?_
  exact noColon h.taken.mem_colon

/-- A second opening bracket is taken, although no host has one. -/
theorem doubled_bracket_taken :
    bindAddress "[[::1]:8081" = .ok (some ⟨.v6 ⟨[0, 0, 0, 0, 0, 0, 0, 1], rfl⟩, 8081⟩) ∧
      ∀ socket, ¬HostPort (Text.trimChars "[[::1]:8081".toList) socket := by
  refine ⟨rfl, fun socket h => ?_⟩
  obtain ⟨-, ⟨noOpening, -⟩ | ⟨inner, around, noOpening, -⟩⟩ :=
    h.regular "[[::1]".toList "8081".toList rfl (by decide)
  · exact noOpening (by decide)
  · have same : '[' :: ("[::1".toList ++ [']']) = '[' :: inner ++ [']'] := around
    obtain rfl := List.append_cancel_right (List.cons.inj same).2
    exact noOpening (by decide)

end GatedManager.Net
