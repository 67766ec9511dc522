import GatedManager.Proofs.Net.BindAddress
import GatedManager.Proofs.Net.Ipv6
import GatedManager.Proofs.Text.Blank

/-!
# Bind addresses are read back

An address with a port is written in the grammar of bind addresses, and a text of the grammar
neither starts nor ends with a blank. So the address and the port are read back from what is
written for them, whatever blanks are around it.
-/

namespace GatedManager.Net

variable {c : Char} {s host left right : List Char} {ip : Ip} {socket : Socket}

theorem isBlank_of_isLiteral (h : isLiteral c) : Text.isBlank c = false := by
  simp only [isLiteral, Bool.or_eq_true, beq_iff_eq] at h
  rcases h with (digit | rfl) | rfl
  · have range := Text.range_of_digit? digit
    simp only [Text.isBlank, Text.inRanges, Text.blankRanges, List.any_cons, List.any_nil,
      Bool.or_eq_false_iff, Bool.and_eq_false_iff, decide_eq_false_iff_not, and_true]
    omega
  · decide
  · decide

theorem mem_separated {sep : Char} {first : Bool} {items : List (List Char)}
    (h : c ∈ separated sep first items) : c = sep ∨ ∃ item ∈ items, c ∈ item := by
  induction items generalizing first with
  | nil => cases h
  | cons item items ih =>
      simp only [separated, List.append_assoc, List.mem_append] at h
      rcases h with h | h | h
      · cases first
        · exact .inl (List.mem_singleton.1 h)
        · cases h
      · exact .inr ⟨item, List.mem_cons_self, h⟩
      · rcases ih h with same | ⟨other, mem, inside⟩
        · exact .inl same
        · exact .inr ⟨other, List.mem_cons_of_mem _ mem, inside⟩

/-- A written IPv4 address has no colon. -/
theorem Ipv4.colon_notMem_render (address : Ipv4) : ':' ∉ address.render := by
  intro mem
  rw [render_eq] at mem
  rcases mem_separated mem with same | ⟨item, octet, inside⟩
  · exact absurd same (by decide)
  · obtain ⟨octet, -, rfl⟩ := List.mem_map.1 octet
    exact absurd (Nat.isDigit_of_mem_toDigits (by decide) (by decide) inside) (by decide)

/-- An address with its port is written in the grammar. -/
theorem hostPort_render (socket : Socket) : HostPort socket.render socket := by
  obtain ⟨ip, port⟩ := socket
  have stands : Host ip.render ip := .literal (Ip.read_render ip)
  cases ip with
  | v4 address => exact .plain stands address.colon_notMem_render (isPort_toDigits port)
  | v6 address =>
      simpa [Socket.render, Ip.render] using HostPort.bracketed stands (isPort_toDigits port)

theorem Host.head?_notBlank (h : Host host ip) : ∀ c ∈ host.head?, Text.isBlank c = false := by
  intro c hc
  cases h with
  | everywhere => cases hc
  | localhost =>
      cases hc
      decide
  | literal read => exact isBlank_of_isLiteral (isLiteral_of_read read c (List.mem_of_mem_head? hc))

theorem HostPort.head?_notBlank (h : HostPort s socket) :
    ∀ c ∈ s.head?, Text.isBlank c = false := by
  cases h with
  | @plain host digits ip port stands free run =>
      intro c hc
      cases host with
      | nil =>
          cases hc
          decide
      | cons d host => exact stands.head?_notBlank c hc
  | bracketed stands run =>
      rintro c ⟨⟩
      decide

theorem HostPort.getLast?_notBlank (h : HostPort s socket) :
    ∀ c ∈ s.getLast?, Text.isBlank c = false := by
  have run : ∃ before digits port, s = before ++ ':' :: digits ∧ IsPort digits port := by
    cases h with
    | plain stands free run => exact ⟨_, _, _, rfl, run⟩
    | bracketed stands run => exact ⟨_, _, _, rfl, run⟩
  obtain ⟨before, digits, port, rfl, run⟩ := run
  obtain ⟨digits, last, rfl⟩ := (List.eq_nil_or_concat digits).resolve_left run.ne_nil
  intro c hc
  rw [List.concat_eq_append, ← List.cons_append, ← List.append_assoc, List.getLast?_concat] at hc
  obtain rfl := Option.some.inj hc
  exact Text.isBlank_of_isDigit (run.isDigit last (by simp))

/-- A text of the grammar is what is left of it between blanks. -/
theorem HostPort.trimChars (h : HostPort s socket) (blank_left : ∀ c ∈ left, Text.isBlank c)
    (blank_right : ∀ c ∈ right, Text.isBlank c) : Text.trimChars (left ++ s ++ right) = s :=
  Text.trimChars_between blank_left blank_right h.head?_notBlank h.getLast?_notBlank

theorem readBindAddress_hostPort (h : HostPort s socket)
    (blank_left : ∀ c ∈ left, Text.isBlank c) (blank_right : ∀ c ∈ right, Text.isBlank c) :
    readBindAddress (String.ofList (left ++ s ++ right)) = .ok (some socket) := by
  refine readBindAddress_of_taken ?_
  rw [String.toList_ofList, h.trimChars blank_left blank_right]
  exact h.taken

/-- What is written for the result of reading a bind address: the address, or `0` for none. -/
def written : Option Socket → List Char
  | some socket => socket.render
  | none => ['0']

/-- Every address with every port is read back from its written form, whatever blanks are around
it, and whatever was read is read again from what is written for it. -/
theorem written_addresses_read_back :
    (∀ (ip : Ip) (port : UInt16) (left right : List Char), (∀ c ∈ left, Text.isBlank c) →
      (∀ c ∈ right, Text.isBlank c) →
      readBindAddress (String.ofList (left ++ Socket.render ⟨ip, port⟩ ++ right)) =
        .ok (some ⟨ip, port⟩)) ∧
    ∀ text result, readBindAddress text = .ok result →
      readBindAddress (String.ofList (written result)) = .ok result := by
  refine ⟨fun ip port left right blank_left blank_right => ?_, fun text result _ => ?_⟩
  · exact readBindAddress_hostPort (hostPort_render ⟨ip, port⟩) blank_left blank_right
  · cases result with
    | none => rfl
    | some socket =>
        have read : readBindAddress (String.ofList ([] ++ socket.render ++ [])) =
            .ok (some socket) := readBindAddress_hostPort (hostPort_render socket) nofun nofun
        rwa [List.nil_append, List.append_nil] at read

theorem mapped_address_reads_back :
    readBindAddress (String.ofList ("\u2003".toList ++
        Socket.render ⟨.v6 ⟨[0, 0, 0, 0, 0, 0xFFFF, 0xC000, 0x0280], rfl⟩, 65535⟩ ++
        "\r\n".toList)) =
      .ok (some ⟨.v6 ⟨[0, 0, 0, 0, 0, 0xFFFF, 0xC000, 0x0280], rfl⟩, 65535⟩) ∧
    readBindAddress ":080" = .ok (some ⟨.v4 ⟨[0, 0, 0, 0], rfl⟩, 80⟩) ∧
      readBindAddress (String.ofList (written (some ⟨.v4 ⟨[0, 0, 0, 0], rfl⟩, 80⟩))) =
        .ok (some ⟨.v4 ⟨[0, 0, 0, 0], rfl⟩, 80⟩) :=
  ⟨written_addresses_read_back.1 _ _ _ _ (List.all_eq_true.1 rfl) (List.all_eq_true.1 rfl), rfl,
    written_addresses_read_back.2 ":080" _ rfl⟩

example : Ip.render (.v6 ⟨[0, 0, 0, 0, 0, 0xFFFF, 0xC000, 0x0280], rfl⟩) =
    "::ffff:192.0.2.128".toList := by decide

end GatedManager.Net
