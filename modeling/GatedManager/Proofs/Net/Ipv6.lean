import GatedManager.Proofs.Net.Ipv4

/-!
# Written IPv6 addresses

An IPv6 address is read back from its written form, whichever run of zeros is left out and whether
or not its end is written as an IPv4 address; and no written IPv6 address can be taken for an IPv4
one. So every address is read back from its written form.
-/

namespace GatedManager.Net

variable {first : Bool} {s rest : List Char}

/-! ### Groups -/

def hexadecimal (group : UInt16) : List Char := Nat.toDigits 16 group.toNat

/-- The text ends or a colon follows. -/
def Pauses (s : List Char) : Prop := ∀ c ∈ s.head?, c = ':'

/-- No group comes next: the text ends, or a double colon follows. -/
inductive Halts : List Char → Prop
  | text : Halts []
  | doubleColon (rest : List Char) : Halts (':' :: ':' :: rest)

theorem pauses_nil : Pauses [] := nofun

theorem pauses_cons (s : List Char) : Pauses (':' :: s) := by
  rintro c ⟨⟩
  rfl

theorem Pauses.ends {base : Nat} (h : Pauses s) : Ends base s := by
  intro c hc
  rw [h c hc]
  simp [isDigitIn, Text.digit?]

theorem Pauses.separated (h : Pauses rest) (items : List (List Char)) :
    Pauses (separated ':' false items ++ rest) := by
  cases items with
  | nil => exact h
  | cons item items => exact pauses_cons _

theorem Halts.pauses (h : Halts rest) : Pauses rest := by
  cases h with
  | text => exact pauses_nil
  | doubleColon rest => exact pauses_cons _

theorem Ipv4.read_pauses (h : Pauses s) : Ipv4.read s = none := by
  have whole : s.dropWhile (isDigitIn 10) = s :=
    Text.dropWhile_append (s := []) (List.forall_mem_nil _) h.ends
  refine Ipv4.read_eq_none fun c hc => ?_
  rw [whole] at hc
  rw [h c hc]
  decide

/-- A group that a colon follows is not the first octet of an IPv4 address. -/
theorem Ipv4.read_hexadecimal (group : UInt16) (h : Pauses rest) :
    Ipv4.read (hexadecimal group ++ rest) = none := by
  have whole : rest.dropWhile (isDigitIn 10) = rest :=
    Text.dropWhile_append (s := []) (List.forall_mem_nil _) h.ends
  refine Ipv4.read_eq_none fun c hc => ?_
  rw [List.dropWhile_append, whole] at hc
  split at hc
  · rw [h c hc]
    decide
  · next unfinished =>
    cases left : (hexadecimal group).dropWhile (isDigitIn 10) with
    | nil => simp [left] at unfinished
    | cons d more =>
        obtain rfl : d = c := by simpa [left] using hc
        have mem : d ∈ hexadecimal group :=
          (List.dropWhile_sublist _).subset (left ▸ List.mem_cons_self)
        have digit : isDigitIn 16 d := Text.isSome_of_mem_toDigits (by decide) (by decide) mem
        rintro rfl
        exact absurd digit (by decide)

theorem readNumber_hexadecimal (group : UInt16) (h : Pauses rest) :
    readNumber 16 4 true (hexadecimal group ++ rest) = some (group.toNat, rest) :=
  readNumber_toDigits (by decide) (by decide) (by decide) group.toNat_lt h.ends

theorem afterSeparator_halts (h : Halts rest) :
    ∀ s ∈ afterSeparator ':' first rest, Pauses s := by
  intro s hs
  cases h with
  | text =>
      cases first
      · cases hs
      · cases hs
        exact pauses_nil
  | doubleColon rest =>
      cases first
      · cases hs
        exact pauses_cons _
      · cases hs
        exact pauses_cons _

theorem readGroups_halts (limit : Nat) (first : Bool) (h : Halts rest) :
    readGroups limit first rest = ([], false, rest) := by
  cases limit with
  | zero => rfl
  | succ limit =>
      cases after : afterSeparator ':' first rest with
      | none => simp [readGroups, after]
      | some s =>
          have pauses := afterSeparator_halts h s after
          simp [readGroups, after, Ipv4.read_pauses pauses, readNumber_eq_none pauses.ends]

/-- Groups are read back as long as no more follow. -/
theorem readGroups_separated (limit : Nat) (groups : List UInt16) (first : Bool)
    (fits : groups.length ≤ limit) (h : Halts rest) :
    readGroups limit first (separated ':' first (groups.map hexadecimal) ++ rest) =
      (groups, false, rest) := by
  induction groups generalizing limit first with
  | nil => exact readGroups_halts limit first h
  | cons group groups ih =>
      obtain ⟨limit, rfl⟩ : ∃ more, limit = more + 1 := by
        exact Nat.exists_eq_succ_of_ne_zero (by simp at fits; omega)
      have pauses := h.pauses.separated (groups.map hexadecimal)
      have onward := ih limit false (by simpa using fits)
      simp only [List.map_cons, separated, List.append_assoc, readGroups, afterSeparator_lead,
        Option.bind_some, Ipv4.read_hexadecimal group pauses, readNumber_hexadecimal group pauses,
        onward, ite_self]
      simp

/-- Groups at the start of a text are no IPv4 address. -/
theorem Ipv4.read_separated (groups : List UInt16) (h : Pauses rest) :
    Ipv4.read (Net.separated ':' true (groups.map hexadecimal) ++ rest) = none := by
  cases groups with
  | nil => exact Ipv4.read_pauses h
  | cons group groups =>
      simp only [List.map_cons, Net.separated, lead, if_true, List.nil_append, List.append_assoc]
      exact Ipv4.read_hexadecimal group (h.separated _)

theorem renderGroups_eq (groups : List UInt16) :
    renderGroups groups = separated ':' true (groups.map hexadecimal) :=
  (separated_true _).symm

/-! ### The run of zeros that is left out -/

theorem eq_zeros_append {groups : List UInt16} {run : Nat}
    (h : run ≤ (groups.takeWhile (· == 0)).length) :
    groups = List.replicate run 0 ++ groups.drop run := by
  have zeros : groups.take run = List.replicate run 0 := by
    rw [← List.takeWhile_append_dropWhile (p := (· == (0 : UInt16))) (l := groups),
      List.take_append_of_le_length h]
    refine List.eq_replicate_iff.2 ⟨List.length_take_of_le h, fun group hg => ?_⟩
    simpa using List.mem_takeWhile_imp (List.mem_of_mem_take hg)
  calc groups
    _ = groups.take run ++ groups.drop run := (List.take_append_drop run groups).symm
    _ = List.replicate run 0 ++ groups.drop run := by rw [zeros]

theorem zeroRun_le (groups : List UInt16) :
    (zeroRun groups).2 ≤ ((groups.drop (zeroRun groups).1).takeWhile (· == 0)).length := by
  refine List.foldlRecOn (motive := fun best : Nat × Nat =>
    best.2 ≤ ((groups.drop best.1).takeWhile (· == 0)).length) _ _ (Nat.zero_le _) ?_
  intro best kept start _
  dsimp only
  split
  · exact le_rfl
  · exact kept

/-- The zeros that are left out stand between what is written. -/
theorem eq_around_zeroRun {groups : List UInt16} {start run : Nat}
    (h : zeroRun groups = (start, run)) :
    groups = groups.take start ++ List.replicate run 0 ++ groups.drop (start + run) := by
  have zeros := zeroRun_le groups
  rw [h] at zeros
  calc groups
    _ = groups.take start ++ groups.drop start := (List.take_append_drop start groups).symm
    _ = groups.take start ++ (List.replicate run 0 ++ (groups.drop start).drop run) := by
        rw [← eq_zeros_append zeros]
    _ = groups.take start ++ List.replicate run 0 ++ groups.drop (start + run) := by
        rw [List.drop_drop, List.append_assoc]

/-! ### Addresses -/

/-- Groups around a double colon are read as the address that has zeros between them. -/
theorem Ipv6.read_doubleColon {address : Ipv6} {head tail : List UInt16} {dotted : Bool}
    {more : List Char} (before : readGroups 8 true s = (head, false, ':' :: ':' :: more))
    (after : readGroups (7 - head.length) true more = (tail, dotted, rest))
    (short : head.length < 8)
    (groups : head ++ List.replicate (8 - head.length - tail.length) 0 ++ tail = address.groups) :
    Ipv6.read s = some (address, rest) := by
  have length : (head ++ List.replicate (8 - head.length - tail.length) 0 ++ tail).length = 8 := by
    rw [groups, address.length_groups]
  simp only [Ipv6.read, before, after, short.ne, dif_neg, not_false_iff, Bool.false_eq_true,
    if_false, dif_pos length]
  simp only [groups]

/-- Eight groups are read as the address that consists of them. -/
theorem Ipv6.read_groups {address : Ipv6}
    (h : readGroups 8 true s = (address.groups, false, rest)) :
    Ipv6.read s = some (address, rest) := by
  simp only [Ipv6.read, h, address.length_groups, dif_pos]

/-- A group is put together from its two octets. -/
theorem octets_of_group (group : UInt16) :
    (group / 256).toUInt8.toUInt16 * 256 + group.toUInt8.toUInt16 = group := by
  have bound := group.toNat_lt
  refine UInt16.toNat_inj.1 ?_
  simp only [UInt16.toNat_add, UInt16.toNat_mul, UInt8.toNat_toUInt16, UInt16.toNat_toUInt8,
    UInt16.toNat_div, UInt16.toNat_ofNat, Nat.reducePow, Nat.reduceMod]
  omega

/-- What an address consists of when an IPv4 address is mapped to it. -/
theorem Ipv6.groups_of_mapped {address : Ipv6} {v4 : Ipv4} (h : address.mapped? = some v4) :
    address.groups = List.replicate 5 0 ++ 0xFFFF :: v4.toGroups := by
  rw [Ipv6.mapped?] at h
  split at h
  · next high low groups =>
    cases h
    rw [groups]
    simp only [Ipv4.toGroups, octets_of_group]
    rfl
  · cases h

theorem Ipv6.read_mapped {address : Ipv6} {v4 : Ipv4} (h : address.mapped? = some v4) :
    Ipv6.read ("::ffff:".toList ++ v4.render) = some (address, []) := by
  have before := readGroups_halts 8 true (.doubleColon ("ffff:".toList ++ v4.render))
  have number := readNumber_hexadecimal 0xFFFF (pauses_cons v4.render)
  have other := Ipv4.read_hexadecimal 0xFFFF (pauses_cons v4.render)
  have embedded : Ipv4.read v4.render = some (v4, []) := by
    simpa using Ipv4.read_render v4 ends_nil
  have after : readGroups 7 true ("ffff:".toList ++ v4.render) =
      (0xFFFF :: v4.toGroups, true, []) := by
    change readGroups 7 true (hexadecimal 0xFFFF ++ ':' :: v4.render) = _
    simp [readGroups, afterSeparator, other, number, embedded]
  have groups := Ipv6.groups_of_mapped h
  have two : v4.toGroups.length = 2 := by
    have length := congrArg List.length groups
    simp only [address.length_groups, List.length_append, List.length_replicate,
      List.length_cons] at length
    omega
  refine Ipv6.read_doubleColon before after (by decide) ?_
  rw [groups, List.length_cons, two]
  rfl

/-- The three forms of a written IPv6 address: with an IPv4 address at its end, with a double colon
for some zeros, and with all groups. -/
inductive Written (address : Ipv6) : List Char → Prop
  | mapped (v4 : Ipv4) : address.mapped? = some v4 →
      Written address ("::ffff:".toList ++ v4.render)
  | short (head tail : List UInt16) (run : Nat) : 1 < run →
      address.groups = head ++ List.replicate run 0 ++ tail →
      Written address (separated ':' true (head.map hexadecimal) ++
        ':' :: ':' :: separated ':' true (tail.map hexadecimal))
  | long : Written address (separated ':' true (address.groups.map hexadecimal))

theorem written_render (address : Ipv6) : Written address address.render := by
  rw [Ipv6.render]
  cases mapped : address.mapped? with
  | some v4 => exact .mapped v4 mapped
  | none =>
      cases found : zeroRun address.groups with
      | mk start run =>
          dsimp only
          split
          · next long =>
            simp only [renderGroups_eq, List.append_assoc, List.cons_append, List.nil_append]
            exact .short _ _ run long (eq_around_zeroRun found)
          · rw [renderGroups_eq]
            exact .long

/-- A written IPv6 address is read back. -/
theorem Ipv6.read_written {address : Ipv6} (h : Written address s) :
    Ipv6.read s = some (address, []) := by
  have length := address.length_groups
  cases h with
  | mapped v4 mapped => exact Ipv6.read_mapped mapped
  | short head tail run long groups =>
      have fits := congrArg List.length groups
      simp only [length, List.length_append, List.length_replicate] at fits
      have before := readGroups_separated 8 head true (by omega)
        (.doubleColon (separated ':' true (tail.map hexadecimal)))
      have after := readGroups_separated (7 - head.length) tail true (by omega) .text
      rw [List.append_nil] at after
      refine Ipv6.read_doubleColon before after (by omega) ?_
      have zeros : 8 - head.length - tail.length = run := by omega
      rw [zeros, groups]
  | long =>
      have all := readGroups_separated 8 address.groups true (by omega) .text
      rw [List.append_nil] at all
      exact Ipv6.read_groups all

/-- A written IPv6 address is no IPv4 address. -/
theorem Ipv4.read_written {address : Ipv6} (h : Written address s) : Ipv4.read s = none := by
  cases h with
  | mapped v4 mapped => exact Ipv4.read_pauses (pauses_cons _)
  | short head tail run long groups => exact Ipv4.read_separated head (pauses_cons _)
  | long =>
      have all := Ipv4.read_separated address.groups pauses_nil
      rwa [List.append_nil] at all

/-- Every address is read back from its written form. -/
theorem Ip.read_render (ip : Ip) : Ip.read ip.render = some ip := by
  cases ip with
  | v4 address =>
      have read : Ipv4.read address.render = some (address, []) := by
        simpa using Ipv4.read_render address ends_nil
      simp [Ip.read, Ip.render, read]
  | v6 address =>
      have written := written_render address
      simp [Ip.read, Ip.render, Ipv4.read_written written, Ipv6.read_written written]

end GatedManager.Net
