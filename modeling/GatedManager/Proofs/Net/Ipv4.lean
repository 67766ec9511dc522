import GatedManager.Net.Ip
import GatedManager.Proofs.Text.Digits
import Mathlib.Data.List.TakeWhile

/-!
# Written IPv4 addresses

A number of an address is read up to the first character that is no digit of its base. An IPv4
address is read back from its written form, whatever follows that does not go on with a digit, and
a text in which something else than a point follows the first digits has none at its start. What is
read of a text consists of digits and separators.
-/

namespace GatedManager.Net

variable {base width n : Nat} {zeros first : Bool} {sep c : Char} {s t rest : List Char}

/-! ### Numbers -/

/-- Whether a character is a digit in a base. -/
def isDigitIn (base : Nat) (c : Char) : Bool := (Text.digit? base c).isSome

/-- No digit in this base comes next. -/
def Ends (base : Nat) (rest : List Char) : Prop := ∀ c ∈ rest.head?, isDigitIn base c = false

theorem ends_nil : Ends base [] := nofun

theorem ends_cons (h : isDigitIn base c = false) : Ends base (c :: rest) := by
  rintro d ⟨⟩
  exact h

theorem readNumber_eq (base width : Nat) (zeros : Bool) (s : List Char) :
    readNumber base width zeros s =
      (let token := s.takeWhile (isDigitIn base)
       if token.length > width then none
       else if !zeros && token.length > 1 && token.head? == some '0' then none
       else (Text.natural? base token).map (·, s.dropWhile (isDigitIn base))) := rfl

/-- A number is read back from its digits when it has no more than are allowed. -/
theorem readNumber_toDigits (one_lt : 1 < base) (le : base ≤ 16) (positive : 0 < width)
    (fits : n < base ^ width) (stop : Ends base rest) :
    readNumber base width zeros (Nat.toDigits base n ++ rest) = some (n, rest) := by
  have digits : ∀ c ∈ Nat.toDigits base n, isDigitIn base c := by
    intro c hc
    exact Text.isSome_of_mem_toDigits one_lt le hc
  have short : (Nat.toDigits base n).length ≤ width :=
    (Nat.length_toDigits_le_iff one_lt positive).2 fits
  have head : ¬(1 < (Nat.toDigits base n).length ∧ (Nat.toDigits base n).head? = some '0') := by
    rintro ⟨long, zero⟩
    have nonzero : n ≠ 0 := by
      rintro rfl
      simp at long
    exact Text.head?_toDigits_ne one_lt le nonzero zero
  rw [readNumber_eq, Text.takeWhile_append digits stop, Text.dropWhile_append digits stop]
  simp only [Text.natural?_toDigits one_lt le, Option.map_some]
  rw [if_neg (by omega), if_neg]
  simp only [Bool.and_eq_true, decide_eq_true_eq, beq_iff_eq]
  exact fun starts => head ⟨starts.1.2, starts.2⟩

theorem readNumber_rest {found : Nat} (h : readNumber base width zeros s = some (found, rest)) :
    rest = s.dropWhile (isDigitIn base) := by
  rw [readNumber_eq] at h
  dsimp only at h
  split at h
  · cases h
  · split at h
    · cases h
    · obtain ⟨m, -, same⟩ := Option.map_eq_some_iff.1 h
      exact (congrArg Prod.snd same).symm

/-- Without a digit there is no number. -/
theorem readNumber_eq_none (stop : Ends base s) : readNumber base width zeros s = none := by
  have token : s.takeWhile (isDigitIn base) = [] := by
    exact Text.takeWhile_append (s := []) (by simp) stop
  simp [readNumber_eq, token, Text.natural?]

/-! ### Items with separators -/

/-- What stands before an item, the first one perhaps being without a separator. -/
def lead (sep : Char) (first : Bool) : List Char := if first then [] else [sep]

/-- Some items, with a separator before each but perhaps the first one. -/
def separated (sep : Char) : Bool → List (List Char) → List Char
  | _, [] => []
  | first, item :: items => lead sep first ++ item ++ separated sep false items

@[simp] theorem afterSeparator_lead : afterSeparator sep first (lead sep first ++ s) = some s := by
  cases first <;> simp [afterSeparator, lead]

theorem separated_true (items : List (List Char)) :
    separated sep true items = [sep].intercalate items := by
  have onward : ∀ items, items ≠ [] →
      separated sep false items = sep :: [sep].intercalate items := by
    intro items ne_nil
    induction items with
    | nil => exact absurd rfl ne_nil
    | cons item items ih =>
        cases items with
        | nil => simp [separated, lead]
        | cons next items =>
            rw [separated, ih (List.cons_ne_nil _ _), List.intercalate_cons_cons]
            simp [lead]
  cases items with
  | nil => rfl
  | cons item items =>
      cases items with
      | nil => simp [separated, lead]
      | cons next items =>
          rw [separated, onward _ (List.cons_ne_nil _ _), List.intercalate_cons_cons]
          simp [lead]

/-- What follows an item that another one or `rest` follows. -/
theorem ends_separated (items : List (List Char)) (h : isDigitIn base sep = false)
    (stop : Ends base rest) : Ends base (separated sep false items ++ rest) := by
  cases items with
  | nil => exact stop
  | cons item items => exact ends_cons h

/-! ### Octets -/

def decimal (octet : UInt8) : List Char := Nat.toDigits 10 octet.toNat

theorem readOctets_separated (octets : List UInt8) (first : Bool) (stop : Ends 10 rest) :
    readOctets octets.length first (separated '.' first (octets.map decimal) ++ rest) =
      some (octets, rest) := by
  induction octets generalizing first with
  | nil => rfl
  | cons octet octets ih =>
      have small : octet.toNat < 256 := octet.toNat_lt
      have number : readNumber 10 3 false
          (Nat.toDigits 10 octet.toNat ++ (separated '.' false (octets.map decimal) ++ rest)) =
            some (octet.toNat, separated '.' false (octets.map decimal) ++ rest) :=
        readNumber_toDigits (by decide) (by decide) (by decide) (by omega)
          (ends_separated (octets.map decimal) (by decide) stop)
      simp only [List.map_cons, separated, List.length_cons, readOctets, List.append_assoc,
        afterSeparator_lead, decimal, Option.bind_eq_bind, Option.bind_some]
      rw [number]
      simp [small, ih false]

theorem render_eq (address : Ipv4) :
    address.render = separated '.' true (address.octets.map decimal) :=
  (separated_true _).symm

/-- A written IPv4 address is read back. -/
theorem Ipv4.read_render (address : Ipv4) (stop : Ends 10 rest) :
    Ipv4.read (address.render ++ rest) = some (address, rest) := by
  have octets := readOctets_separated address.octets true stop
  rw [address.length_octets, ← render_eq] at octets
  simp [Ipv4.read, octets, address.length_octets]

/-- Digits that no point follows are no IPv4 address. -/
theorem Ipv4.read_eq_none (h : ∀ c ∈ (s.dropWhile (isDigitIn 10)).head?, c ≠ '.') :
    Ipv4.read s = none := by
  have point : afterSeparator '.' false (s.dropWhile (isDigitIn 10)) = none := by
    cases after : s.dropWhile (isDigitIn 10) with
    | nil => rfl
    | cons c rest =>
        rw [after] at h
        exact if_neg (h c rfl)
  have octets : readOctets 4 true s = none := by
    rw [readOctets]
    cases number : readNumber 10 3 false s with
    | none => simp [afterSeparator, number]
    | some found =>
        obtain ⟨octet, rest⟩ := found
        obtain rfl := readNumber_rest number
        have onward : readOctets 3 false (s.dropWhile (isDigitIn 10)) = none := by
          simp [readOctets, point]
        have start : afterSeparator '.' true s = some s := rfl
        simp [start, number, onward]
  simp [Ipv4.read, octets]

end GatedManager.Net
